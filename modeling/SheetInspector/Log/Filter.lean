import SheetInspector.Log.Basic
import SheetInspector.Pattern.Compile
import SheetInspector.Text.Blank
import SheetInspector.Text.Casing
import SheetInspector.Text.Plain

set_option autoImplicit false

/-! # Filtering log records

A specification says which records are shown: directives between commas, each a level, the
name of a source, or a name and a level with an equals sign between. A name stands for all
sources that begin with it, and of several that fit the longest decides. After a slash a regular
expression may follow that has to match somewhere in a message. Directives and expressions that
make no sense are reported and skipped.
-/

namespace SheetInspector

/-- A directive: records of sources that begin with the name, or of all sources, are shown up
to a rank. -/
structure LogDirective where
  source : Option String
  rank : Nat
  deriving DecidableEq, Repr

/-- Which records are shown. -/
structure LogFilter where
  /-- The directives, of which a later one with the same name replaces an earlier one. -/
  directives : List LogDirective
  /-- What has to match somewhere in a message. -/
  required : Option Pattern.Regex
  deriving DecidableEq, Repr

namespace LogFilter

/-- The names of ranks, from nothing to everything. -/
def rankNames : List String := ["off", "error", "warn", "info", "debug", "trace"]

/-- The rank with a name, in any case. -/
def rank? (name : String) : Option Nat :=
  rankNames.findIdx? fun n => Text.equalsIgnoringAsciiCase n.toList name.toList

/-- The rank that shows everything. -/
def highest : Nat := 5

/-- Reads a directive, or gives the report about it. -/
def directive (s : String) : Except String LogDirective :=
  match (s.splitOn "=") with
  | [name] =>
    match rank? name with
    | some rank => .ok ⟨none, rank⟩
    | none => .ok ⟨some name, highest⟩
  | [name, level] =>
    let level := String.ofList (Text.trim level.toList)
    if level = "" then .ok ⟨some name, highest⟩
    else
      match rank? level with
      | some rank => .ok ⟨some name, rank⟩
      | none => .error ("invalid logging spec '" ++ level ++ "'")
  | _ => .error ("invalid logging spec '" ++ s ++ "'")

/-- Adds a directive: it takes the place of one with the same name. -/
def insert (d : LogDirective) : List LogDirective → List LogDirective
  | [] => [d]
  | e :: rest => if e.source = d.source then d :: rest else e :: insert d rest

/-- The directives in a part of a specification, and the reports about those that make no
sense. -/
def readDirectives (s : String) : List LogDirective × List String :=
  let pieces := ((s.splitOn ",").map fun piece => String.ofList (Text.trim piece.toList)).filter
    (· ≠ "")
  pieces.foldl (fun (directives, reports) piece =>
    match directive piece with
    | .ok d => (insert d directives, reports)
    | .error report => (directives, reports ++ [report])) ([], [])

/-- The expression that messages have to match, and the report about it if it makes no sense. -/
def readPattern : Option String → Option Pattern.Regex × List String
  | none => (none, [])
  | some pattern =>
    match Pattern.Regex.ofPattern pattern with
    | .ok r => (some r, [])
    | .error report => (none, ["invalid regex filter - " ++ report])

/-- Reads a specification; without any directive only errors are shown. -/
def parse (s : String) : LogFilter × List String :=
  let onlyErrors : List LogDirective := [⟨none, 1⟩]
  match s.splitOn "/" with
  | directives :: rest =>
    if 1 < rest.length then
      (⟨onlyErrors, none⟩, ["invalid logging spec '" ++ s ++ "' (too many '/'s)"])
    else
      let (given, reports) := readDirectives directives
      let (required, more) := readPattern rest.head?
      (⟨if given.isEmpty then onlyErrors else given, required⟩, reports ++ more)
  | [] => (⟨onlyErrors, none⟩, [])

/-- The length of the name in a directive. -/
def nameLength (d : LogDirective) : Nat := (d.source.map String.utf8ByteSize).getD 0

/-- Whether a directive is about a source. -/
def covers (d : LogDirective) (source : String) : Bool :=
  match d.source with
  | none => true
  | some name => name.isPrefixOf source

/-- Whether a record is shown. -/
def shows (f : LogFilter) (r : LogRecord) : Bool :=
  let sorted := f.directives.mergeSort fun a b => nameLength a ≤ nameLength b
  let enabled := match sorted.reverse.find? (covers · r.source) with
    | some d => decide (r.level.rank ≤ d.rank)
    | none => false
  enabled &&
    match f.required with
    | none => true
    | some pattern => pattern.occursIn r.message

end LogFilter

/-- A record as a line of plain text; further lines of its message are indented. -/
def LogRecord.text (r : LogRecord) : String :=
  let line := "[" ++ r.level.label ++ " " ++ r.source ++ "] " ++
    String.intercalate "\n    " (r.message.splitOn "\n") ++ "\n"
  String.ofList (Text.plain line.toList)

end SheetInspector
