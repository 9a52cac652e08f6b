import SheetInspector.Pattern.Place

set_option autoImplicit false

/-! # Faults of patterns

What can be wrong with a pattern, and the report that marks the place in the text of the pattern.
-/

namespace SheetInspector.Pattern

/-- What is wrong. -/
inductive FaultKind where
  | classEscape
  | classRange
  | classRangeEnds
  | classUnclosed
  | decimalInvalid
  | hexEmpty
  | hexInvalid
  | hexDigit
  | escapeEnd
  | escapeUnknown
  | flagDangling
  | flagDuplicate
  | flagNegations
  | flagEnd
  | flagUnknown
  | nameDuplicate
  | nameEmpty
  | nameInvalid
  | nameEnd
  | groupUnclosed
  | groupUnopened
  | tooDeep (limit : Nat)
  | countOrder
  | countEmpty
  | countUnclosed
  | nothingToRepeat
  | wordUnclosed
  | wordUnknown
  | wordEnd
  | propertyInvalid
  | backreference
  | lookAround
  | unicodeNotAllowed
  | notUtf8
  | propertyNotFound
  | propertyValueNotFound
  | shorthandUnavailable
  | caseUnavailable
  deriving DecidableEq, Repr

/-- The words for a fault. -/
def FaultKind.message : FaultKind → String
  | .classEscape => "invalid escape sequence found in character class"
  | .classRange => "invalid character class range, the start must be <= the end"
  | .classRangeEnds => "invalid range boundary, must be a literal"
  | .classUnclosed => "unclosed character class"
  | .decimalInvalid => "decimal literal invalid"
  | .hexEmpty => "hexadecimal literal empty"
  | .hexInvalid => "hexadecimal literal is not a Unicode scalar value"
  | .hexDigit => "invalid hexadecimal digit"
  | .escapeEnd => "incomplete escape sequence, reached end of pattern prematurely"
  | .escapeUnknown => "unrecognized escape sequence"
  | .flagDangling => "dangling flag negation operator"
  | .flagDuplicate => "duplicate flag"
  | .flagNegations => "flag negation operator repeated"
  | .flagEnd => "expected flag but got end of regex"
  | .flagUnknown => "unrecognized flag"
  | .nameDuplicate => "duplicate capture group name"
  | .nameEmpty => "empty capture group name"
  | .nameInvalid => "invalid capture group character"
  | .nameEnd => "unclosed capture group name"
  | .groupUnclosed => "unclosed group"
  | .groupUnopened => "unopened group"
  | .tooDeep limit =>
    "exceed the maximum number of nested parentheses/brackets (" ++ toString limit ++ ")"
  | .countOrder => "invalid repetition count range, the start must be <= the end"
  | .countEmpty => "repetition quantifier expects a valid decimal"
  | .countUnclosed => "unclosed counted repetition"
  | .nothingToRepeat => "repetition operator missing expression"
  | .wordUnclosed =>
    "special word boundary assertion is either unclosed or contains an invalid character"
  | .wordUnknown =>
    "unrecognized special word boundary assertion, valid choices are: start, end, start-half " ++
      "or end-half"
  | .wordEnd =>
    "found either the beginning of a special word boundary or a bounded repetition on a \\b " ++
      "with an opening brace, but no closing brace"
  | .propertyInvalid => "invalid Unicode character class"
  | .backreference => "backreferences are not supported"
  | .lookAround => "look-around, including look-ahead and look-behind, is not supported"
  | .unicodeNotAllowed => "Unicode not allowed here"
  | .notUtf8 => "pattern can match invalid UTF-8"
  | .propertyNotFound => "Unicode property not found"
  | .propertyValueNotFound => "Unicode property value not found"
  | .shorthandUnavailable =>
    "Unicode-aware Perl class not found (make sure the unicode-perl feature is enabled)"
  | .caseUnavailable =>
    "Unicode-aware case insensitivity matching is not available (make sure the unicode-case " ++
      "feature is enabled)"

/-- A fault and where it is. -/
structure Fault where
  kind : FaultKind
  span : Span
  /-- What the fault is at odds with. -/
  other : Option Span
  deriving DecidableEq, Repr

namespace Fault

/-- The lines of a text. Each ends in a line feed, possibly with a carriage return before it; the
last may do without. -/
def linesOf (pattern : String) : List String :=
  let lines := pattern.splitOn "\n"
  let ended := lines.dropLast.map fun line =>
    let chars := line.toList
    if chars.getLast? = some '\r' then String.ofList chars.dropLast else line
  match lines.getLast? with
  | none => ended
  | some last => if last = "" then ended else ended ++ [last]

/-- So many copies of a character. -/
def copies (c : Char) (n : Nat) : String := String.ofList (List.replicate n c)

/-- The marks below a line, from a column on, for spans on that line. -/
def marksFrom (column : Nat) : List Span → String
  | [] => ""
  | span :: rest =>
    let gap := span.start.column - column
    let width := max 1 (span.stop.column - span.start.column)
    copies ' ' gap ++ copies '^' width ++ marksFrom (column + gap + width) rest

/-- The spans of a fault in the order of their beginnings. -/
def spans (f : Fault) : List Span :=
  match f.other with
  | none => [f.span]
  | some other => if other.start.offset ≤ f.span.start.offset then [other, f.span] else [f.span, other]

/-- The lines of a pattern, with marks below those that the fault is on. Lines are numbered to
`width` digits, or indented if that is zero. -/
def notated (f : Fault) (width : Nat) (pattern : String) : String :=
  String.join ((linesOf pattern).mapIdx fun i line =>
    let number := toString (i + 1)
    let margin := if width = 0 then "    " else copies ' ' (width - number.length) ++ number ++ ": "
    let here := f.spans.filter fun span => span.isOneLine && span.start.line == i + 1
    let marks :=
      if here.isEmpty then ""
      else copies ' ' (if width = 0 then 4 else width + 2) ++ marksFrom 1 here ++ "\n"
    margin ++ line ++ "\n" ++ marks)

/-- What is said about a span over several lines. -/
def note (span : Span) : String :=
  "on line " ++ toString span.start.line ++ " (column " ++ toString span.start.column ++
    ") through line " ++ toString span.stop.line ++ " (column " ++
    toString (span.stop.column - 1) ++ ")"

/-- The report of a fault in a pattern. -/
def report (f : Fault) (pattern : String) : String :=
  let conclusion := "error: " ++ f.kind.message
  if pattern.contains '\n' then
    let count := (linesOf pattern).length + if pattern.endsWith "\n" then 1 else 0
    let width := if count ≤ 1 then 0 else (toString count).length
    let divider := copies '~' 79 ++ "\n"
    let wide := f.spans.filter (!·.isOneLine)
    let notes :=
      if wide.isEmpty then "" else String.intercalate "\n" (wide.map note) ++ "\n"
    "regex parse error:\n" ++ divider ++ f.notated width pattern ++ divider ++ notes ++ conclusion
  else "regex parse error:\n" ++ f.notated 0 pattern ++ conclusion

end Fault

end SheetInspector.Pattern
