set_option autoImplicit false

/-! # Plain text

A text without what would control a terminal. Control characters are left out, apart from the
white space among them, and so are control sequences. Such a sequence begins with the escape
character and ends with its final character; some of them introduce a string with an end of its
own. White space within a sequence is kept and breaks the sequence off, but within a string it
belongs to the string. Two control characters cancel a sequence, and another escape character
begins a new one.
-/

namespace SheetInspector.Text

/-- Where the reading of a control sequence stands. -/
inductive ControlState where
  /-- Outside of control sequences. -/
  | outside
  /-- Behind the escape character. -/
  | escape
  /-- Behind the escape character and characters that a final one has to follow. -/
  | selection
  /-- Within the parameters of a sequence. -/
  | parameters
  /-- Within a string that a bell ends. -/
  | title
  /-- Behind the characters that introduce a string for a device. -/
  | device
  /-- Within the parameters of a string for a device. -/
  | deviceParameters
  /-- Behind the parameters of a string for a device. -/
  | deviceSelection
  /-- Within a string that a string terminator ends. -/
  | string
  deriving DecidableEq, Repr

namespace ControlState

/-- Whether a character is white space among the control characters, other than the vertical
tabulator. -/
def isSpacing (c : Char) : Bool := c == '\t' || c == '\n' || c == '\x0c' || c == '\r'

/-- Whether a character is a visible one of ASCII, or the space. -/
def isVisibleAscii (c : Char) : Bool := 0x20 ≤ c.toNat && c.toNat < 0x7F

/-- Whether the string terminator is among the bytes of a character. -/
def hasTerminator (c : Char) : Bool := (String.singleton c).toUTF8.toList.contains 0x9C

/-- The state behind a visible ASCII character. -/
def afterVisible (c : Char) : ControlState → ControlState
  | outside => outside
  | escape =>
    if c.toNat < 0x30 then selection
    else if c = '[' then parameters
    else if c = ']' then title
    else if c = 'P' then device
    else if c = 'X' || c = '^' || c = '_' then string
    else outside
  | selection => if c.toNat < 0x30 then selection else outside
  | parameters => if c.toNat < 0x40 then parameters else outside
  | title => title
  | device =>
    if c.toNat < 0x30 then deviceSelection
    else if c.toNat < 0x40 then deviceParameters
    else string
  | deviceParameters =>
    if c.toNat < 0x30 then deviceSelection
    else if c.toNat < 0x3C then deviceParameters
    else string
  | deviceSelection => if c.toNat < 0x30 then deviceSelection else string
  | string => string

/-- The state behind any other character. -/
def afterOther (c : Char) : ControlState → ControlState
  | title => if c = '\x07' then outside else title
  | string => if hasTerminator c then outside else string
  | state => state

/-- Whether a character belongs to the plain text. -/
def keeps (c : Char) : ControlState → Bool
  | outside => isSpacing c || isVisibleAscii c || 0x7F < c.toNat
  | escape => isSpacing c
  | selection => isSpacing c
  | parameters => isSpacing c
  | _ => false

/-- The state behind a character. -/
def after (c : Char) (state : ControlState) : ControlState :=
  if c = '\x1b' then escape
  else if c = '\x18' || c = '\x1a' || keeps c state then outside
  else if isVisibleAscii c then afterVisible c state
  else afterOther c state

end ControlState

/-- The plain text among characters, in a state and behind those in `done`, which are in reverse
order. -/
def plainFrom (state : ControlState) (done : List Char) : List Char → List Char
  | [] => done.reverse
  | c :: rest =>
    plainFrom (state.after c) (if state.keeps c then c :: done else done) rest

/-- The plain text among characters. -/
def plain (s : List Char) : List Char := plainFrom .outside [] s

end SheetInspector.Text
