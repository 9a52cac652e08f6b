import SheetInspector.Grid

set_option autoImplicit false

/-! # Comparing two sheets

Two sheets, one from before and one from after some work on them, are compared cell by cell
through their descriptors. A blank cell counts as absent. A cell present on one side only was
added or removed; a cell present on both sides with another type, value or formula was
modified. Changes are listed in the order of addresses.
-/

namespace SheetInspector

/-- How a cell differs. -/
inductive ChangeKind where
  /-- Present afterwards only. -/
  | added
  /-- Present before only. -/
  | removed
  /-- Present in both, and different. -/
  | modified
  deriving DecidableEq, Repr

namespace ChangeKind

/-- The sign that stands for a kind of change. -/
def symbol : ChangeKind → Char
  | .added => '+'
  | .removed => '-'
  | .modified => '~'

/-- The name of a kind of change. -/
def name : ChangeKind → String
  | .added => "added"
  | .removed => "removed"
  | .modified => "modified"

end ChangeKind

/-- One changed cell, with the descriptors of both sides as far as they are present. -/
structure Change where
  kind : ChangeKind
  /-- The written address. -/
  reference : String
  address : Address
  before : Option Descriptor
  after : Option Descriptor
  deriving DecidableEq, Repr

namespace Change

/-- What is reported about the two sides. -/
def sidesText : Option Descriptor → Option Descriptor → String
  | some before, some after => before.summary ++ " -> " ++ after.summary
  | some only, none => only.summary
  | none, some only => only.summary
  | none, none => ""

/-- The report of a change in one line. -/
def text (c : Change) : String :=
  c.kind.symbol.toString ++ " " ++ c.reference ++ ": " ++ sidesText c.before c.after

end Change

/-- Whether two descriptors describe the same content. -/
def Descriptor.sameContent (a b : Descriptor) : Bool :=
  a.kind == b.kind && a.value.agrees b.value && a.formula == b.formula

/-- The kind of change between the two sides of a cell, if they differ. -/
def ChangeKind.between? : Option Descriptor → Option Descriptor → Option ChangeKind
  | some a, some b => if a.sameContent b then none else some .modified
  | none, some _ => some .added
  | some _, none => some .removed
  | none, none => none

/-- The change of a cell between its two sides, if they differ. The written address is that of
the side before where it is present. -/
def Change.between? (a : Address) (before after : Option Descriptor) : Option Change :=
  (ChangeKind.between? before after).map fun kind =>
    { kind
      reference := ((before.or after).map Descriptor.reference).getD ""
      address := a
      before
      after }

/-- The differences between two sheets. -/
structure Comparison where
  extentBefore : Extent
  extentAfter : Extent
  changes : List Change
  deriving DecidableEq, Repr

namespace Comparison

/-- Whether no cell changed. -/
def isEmpty (c : Comparison) : Bool := c.changes.isEmpty

/-- The number of changes of a kind. -/
def count (c : Comparison) (kind : ChangeKind) : Nat := (c.changes.filter (·.kind = kind)).length

/-- Whether the two sheets differ in extent. -/
def extentChanged (c : Comparison) : Bool := c.extentBefore != c.extentAfter

/-- The smallest extent around some descriptors. -/
def extentOf (ds : List Descriptor) : Extent := ds.foldl (fun e d => e.cover d.address) .empty

/-- The descriptors of the cells that are not blank, by address; of several at one address the
last one counts. -/
def filled (ds : List Descriptor) : Std.TreeMap Address Descriptor Address.compare :=
  (ds.filter (!·.isBlank)).foldl (fun m d => m.insert d.address d) ∅

/-- The addresses of two maps, in order and each once. -/
def addresses (old new : Std.TreeMap Address Descriptor Address.compare) : List Address :=
  (Std.TreeSet.ofList (old.keys ++ new.keys) Address.compare).toList

/-- Compares two lists of descriptors. -/
def ofDescriptors (before after : List Descriptor) : Comparison :=
  let old := filled before
  let new := filled after
  { extentBefore := extentOf before
    extentAfter := extentOf after
    changes := (addresses old new).filterMap fun a => Change.between? a old[a]? new[a]? }

/-- Inspects two grids, the one from before first, and compares them. -/
def ofGrids {m : Type → Type} [Monad m] (before after : Grid m) : m Comparison := do
  let old ← before.inspect
  let new ← after.inspect
  return ofDescriptors old new

end Comparison

end SheetInspector
