import SheetInspector.Number.Notation

set_option autoImplicit false

/-! # Command-line arguments

The arguments of the tool: options for all commands, the name of a command, and its own options
and files. The options for all commands may stand on either side of the command's name; where
one stands on both, the one behind the name counts. Arguments are read from left to right, and
the first that makes no sense, or that asks for the version or for help, ends the reading.
-/

namespace SheetInspector

/-- How a report is written. -/
inductive OutputForm where
  | text
  | json
  deriving DecidableEq, Repr

/-- What is to be done. -/
inductive Command where
  /-- Describe every cell. -/
  | inspect (input : String)
  /-- Show the first rows. -/
  | preview (input : String) (rows : Nat)
  /-- Report formulas whose marker is wrong. -/
  | check (input : String)
  /-- Compare two files. -/
  | diff (before after : String) (failOnChange : Bool)
  /-- Show the sheets of a workbook. -/
  | info (input : String)
  deriving DecidableEq, Repr

/-- The files a command reads. -/
def Command.inputs : Command → List String
  | .inspect input => [input]
  | .preview input _ => [input]
  | .check input => [input]
  | .diff before after _ => [before, after]
  | .info input => [input]

/-- The options for all commands, as far as they are given. -/
structure Settings where
  form : Option OutputForm
  sheet : Option String
  delimiter : Option Char
  noTypeDetection : Bool
  /-- How often more detail is asked for. -/
  verbosity : Nat
  deriving DecidableEq, Repr

namespace Settings

/-- No options. -/
def unset : Settings := ⟨none, none, none, false, 0⟩

/-- The options before a command's name, replaced by those behind it. -/
def override (outer inner : Settings) : Settings :=
  { form := inner.form.or outer.form
    sheet := inner.sheet.or outer.sheet
    delimiter := inner.delimiter.or outer.delimiter
    noTypeDetection := outer.noTypeDetection || inner.noTypeDetection
    verbosity := if inner.verbosity = 0 then outer.verbosity else inner.verbosity }

end Settings

/-- Everything the arguments say. -/
structure Invocation where
  command : Command
  settings : Settings
  deriving DecidableEq, Repr

/-- The names of commands. -/
inductive Verb where
  | inspect
  | preview
  | check
  | diff
  | info
  deriving DecidableEq, Repr

namespace Verb

/-- The name of a command. -/
def name : Verb → String
  | .inspect => "inspect"
  | .preview => "preview"
  | .check => "check"
  | .diff => "diff"
  | .info => "info"

/-- All commands. -/
def all : List Verb := [.inspect, .preview, .check, .diff, .info]

/-- How many files a command takes. -/
def fileCount : Verb → Nat
  | .diff => 2
  | _ => 1

end Verb

/-- What help can be asked for about. -/
inductive HelpTopic where
  /-- The tool as a whole. -/
  | tool
  | command (verb : Verb)
  /-- Asking for help. -/
  | help
  deriving DecidableEq, Repr

/-- What the arguments ask for, other than running a command. -/
inductive Halt where
  /-- The arguments make no sense. -/
  | misuse
  | version
  | help (topic : HelpTopic)
  deriving DecidableEq, Repr

/-- The options. -/
inductive Flag where
  | form
  | sheet
  | delimiter
  | noTypeDetection
  | verbose
  | help
  | version
  | rows
  | failOnChange
  deriving DecidableEq, Repr

namespace Flag

/-- The long names of options. -/
def longNames : List (String × Flag) :=
  [("format", .form), ("sheet", .sheet), ("delimiter", .delimiter),
    ("no-type-detection", .noTypeDetection), ("verbose", .verbose), ("help", .help),
    ("version", .version), ("rows", .rows), ("fail-on-change", .failOnChange)]

/-- The short names of options. -/
def shortNames : List (Char × Flag) :=
  [('v', .verbose), ('h', .help), ('V', .version), ('r', .rows)]

/-- Whether an option is followed by a value. -/
def takesValue : Flag → Bool
  | .form => true
  | .sheet => true
  | .delimiter => true
  | .rows => true
  | _ => false

/-- Whether an option can stand before a command's name, or behind the name of the given
command. -/
def isAllowed : Option Verb → Flag → Bool
  | none, .rows => false
  | none, .failOnChange => false
  | none, _ => true
  | some _, .version => false
  | some verb, .rows => verb = .preview
  | some verb, .failOnChange => verb = .diff
  | some _, _ => true

end Flag

/-- What has been read on one side of a command's name. -/
structure ArgumentScan where
  settings : Settings
  rows : Option Nat
  failOnChange : Bool
  /-- The files, in reverse order. -/
  files : List String
  deriving DecidableEq, Repr

namespace ArgumentScan

/-- Nothing read. -/
def initial : ArgumentScan := ⟨.unset, none, false, []⟩

/-- Gives a value to an option that has none yet. -/
def setOnce {α : Type} (old : Option α) (value : Option α) : Except Halt (Option α) :=
  match old, value with
  | none, some a => .ok (some a)
  | _, _ => .error .misuse

/-- The form with a name. -/
def formOf? (name : String) : Option OutputForm :=
  if name = "text" then some .text else if name = "json" then some .json else none

/-- The only character of a text. -/
def charOf? (s : String) : Option Char :=
  match s.toList with
  | [c] => some c
  | _ => none

/-- Takes an option with a value into account. -/
def setValue (a : ArgumentScan) (flag : Flag) (value : String) : Except Halt ArgumentScan :=
  match flag with
  | .form => return { a with settings := { a.settings with
      form := ← setOnce a.settings.form (formOf? value) } }
  | .sheet => return { a with settings := { a.settings with
      sheet := ← setOnce a.settings.sheet (some value) } }
  | .delimiter => return { a with settings := { a.settings with
      delimiter := ← setOnce a.settings.delimiter (charOf? value) } }
  | .rows => return { a with rows := ← setOnce a.rows (natOfBits? 64 value.toList) }
  | _ => .error .misuse

/-- Takes an option without a value into account. -/
def setFlag (a : ArgumentScan) (verb : Option Verb) (flag : Flag) : Except Halt ArgumentScan :=
  match flag with
  | .noTypeDetection =>
    if a.settings.noTypeDetection then .error .misuse
    else .ok { a with settings := { a.settings with noTypeDetection := true } }
  | .verbose =>
    .ok { a with settings := { a.settings with verbosity := min 255 (a.settings.verbosity + 1) } }
  | .failOnChange =>
    if a.failOnChange then .error .misuse else .ok { a with failOnChange := true }
  | .help => .error (.help ((verb.map HelpTopic.command).getD .tool))
  | .version => .error .version
  | _ => .error .misuse

/-- Takes a file into account. -/
def addFile (a : ArgumentScan) (verb : Option Verb) (path : String) : Except Halt ArgumentScan :=
  match verb with
  | none => .error .misuse
  | some verb =>
    if verb.fileCount ≤ a.files.length || path = "" then .error .misuse
    else .ok { a with files := path :: a.files }

/-- Takes the letters behind a single hyphen into account. The result holds an option that
still needs a value. -/
def setLetters (a : ArgumentScan) (verb : Option Verb) :
    List Char → Except Halt (ArgumentScan × Option Flag)
  | [] => .ok (a, none)
  | c :: rest =>
    match Flag.shortNames.lookup c with
    | none => .error .misuse
    | some flag =>
      if !Flag.isAllowed verb flag then .error .misuse
      else if flag.takesValue then
        match rest with
        | [] => .ok (a, some flag)
        | '=' :: value => (a.setValue flag (String.ofList value)).map (·, none)
        | value => (a.setValue flag (String.ofList value)).map (·, none)
      else
        match a.setFlag verb flag with
        | .error halt => .error halt
        | .ok a' => a'.setLetters verb rest

/-- Takes what stands behind two hyphens into account. -/
def setLong (a : ArgumentScan) (verb : Option Verb) (s : List Char) :
    Except Halt (ArgumentScan × Option Flag) :=
  let name := String.ofList (s.takeWhile (· != '='))
  let value := s.dropWhile (· != '=')
  match Flag.longNames.lookup name with
  | none => .error .misuse
  | some flag =>
    if !Flag.isAllowed verb flag then .error .misuse
    else
      match flag.takesValue, value with
      | true, [] => .ok (a, some flag)
      | true, _ :: value => (a.setValue flag (String.ofList value)).map (·, none)
      | false, [] => (a.setFlag verb flag).map (·, none)
      | false, _ :: _ => .error .misuse

/-- What is asked for by the arguments behind the word `help`. -/
def helpOn : List String → Halt
  | [] => .help .tool
  | [word] =>
    if word = "help" then .help .help
    else
      match Verb.all.find? (·.name = word) with
      | some verb => .help (.command verb)
      | none => .misuse
  | _ => .misuse

/-- Reads the arguments behind a command's name, or those before it; in the latter case the
name of the command ends the reading, and the arguments behind it are given as well. An option
that still needs a value takes the next argument, unless that looks like another option. A lone
hyphen is a value like any other, and behind a lone pair of hyphens everything is a file. -/
def read (verb : Option Verb) (a : ArgumentScan) (awaiting : Option Flag) :
    List String → Except Halt (ArgumentScan × Option (Verb × List String))
  | [] =>
    match awaiting with
    | some _ => .error .misuse
    | none => .ok (a, none)
  | word :: rest =>
    match awaiting, word.toList with
    | some _, '-' :: _ :: _ => .error .misuse
    | some flag, _ =>
      match a.setValue flag word with
      | .error halt => .error halt
      | .ok a' => a'.read verb none rest
    | none, '-' :: '-' :: [] =>
      (rest.foldlM (fun (a : ArgumentScan) path => a.addFile verb path) a).map (·, none)
    | none, '-' :: '-' :: s =>
      match a.setLong verb s with
      | .error halt => .error halt
      | .ok (a', awaiting') => a'.read verb awaiting' rest
    | none, '-' :: c :: s =>
      match a.setLetters verb (c :: s) with
      | .error halt => .error halt
      | .ok (a', awaiting') => a'.read verb awaiting' rest
    | none, _ =>
      match verb with
      | some _ =>
        match a.addFile verb word with
        | .error halt => .error halt
        | .ok a' => a'.read verb none rest
      | none =>
        if word = "help" then .error (helpOn rest)
        else
          match Verb.all.find? (·.name = word) with
          | some v => .ok (a, some (v, rest))
          | none => .error .misuse

end ArgumentScan

namespace Invocation

/-- The number of rows shown unless another one is asked for. -/
def defaultRows : Nat := 6

/-- The command with a name and what stands behind it. -/
def commandOf? (verb : Verb) (a : ArgumentScan) : Option Command :=
  match verb, a.files.reverse with
  | .inspect, [input] => some (.inspect input)
  | .preview, [input] => some (.preview input (a.rows.getD defaultRows))
  | .check, [input] => some (.check input)
  | .diff, [before, after] => some (.diff before after a.failOnChange)
  | .info, [input] => some (.info input)
  | _, _ => none

/-- Reads the arguments of the tool. -/
def parse (arguments : List String) : Except Halt Invocation := do
  match ← ArgumentScan.initial.read none none arguments with
  | (_, none) => throw .misuse
  | (outer, some (verb, rest)) =>
    let (inner, _) ← ArgumentScan.initial.read (some verb) none rest
    match commandOf? verb inner with
    | none => throw .misuse
    | some command => return { command, settings := outer.settings.override inner.settings }

end Invocation

end SheetInspector
