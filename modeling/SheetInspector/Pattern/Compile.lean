import SheetInspector.Pattern.Meaning
import SheetInspector.Pattern.Parse

set_option autoImplicit false

/-! # Compiling patterns

From the text of a pattern to its regular expression, or to the report of why there is none. An
expression is refused if an automaton for it would be too large, or if it is about words of more
than ASCII.
-/

namespace SheetInspector.Pattern

/-- The report about an expression that is about words of all letters. -/
def wordsReport : String := "error building NFA"

/-- The report about an expression that is too large. -/
def sizeReport : String :=
  "Compiled regex exceeds size limit of " ++ toString Regex.sizeLimit ++ " bytes."

/-- The regular expression of a pattern, or the report of what is wrong with it. The automaton that
reads forward is made first. -/
def Regex.ofPattern (pattern : String) : Except String Regex :=
  match Expr.read pattern.toList >>= Expr.meaning .initial with
  | .error fault => .error (fault.report pattern)
  | .ok (r, _) =>
    if sizeLimit < r.size false then .error sizeReport
    else if r.needsAllLetters then .error wordsReport
    else if sizeLimit < r.size true then .error sizeReport
    else .ok r

end SheetInspector.Pattern
