import SheetInspector.Zip.Fault
import SheetInspector.Zip.Record

set_option autoImplicit false

/-! # Where the parts of an archive are

An archive ends in a record that says where its directory is. Bytes in front of the archive are
allowed; the directory is then found by its own mark, and everything is shifted by the same
distance. An archive too large for the numbers of that record has a wide end record as well, and
a locator between the two that says where it is.
-/

namespace SheetInspector.Zip

/-- Where the parts of an archive are in a file: how far the archive is shifted, the place of its
directory, and the number of its entries. -/
structure Layout where
  shift : Nat
  directory : Nat
  count : Nat
  deriving DecidableEq, Repr

/-- The record that an archive ends in. -/
structure EndRecord where
  disk : Nat
  directoryDisk : Nat
  /-- The number of entries on this disk. -/
  countHere : Nat
  /-- The number of entries on all disks. -/
  count : Nat
  /-- Where the directory begins, in the archive as it was written. -/
  directory : Nat
  deriving DecidableEq, Repr

/-- Reads the end record at a place. -/
def EndRecord.read (s : Bytes) (place : Nat) : Except Fault EndRecord :=
  let record := s.drop place
  if record.length < 22 then .error .truncated
  else if record.length < 22 + numberAt record 20 2 then .error .longComment
  else
    .ok
      { disk := numberAt record 4 2
        directoryDisk := numberAt record 6 2
        countHere := numberAt record 8 2
        count := numberAt record 10 2
        directory := numberAt record 16 4 }

/-- The record that says where the wide end record is. -/
structure Locator where
  directoryDisk : Nat
  /-- Where the wide end record begins, in the archive as it was written. -/
  offset : Nat
  disks : Nat
  deriving DecidableEq, Repr

/-- The number of bytes of a locator. -/
def Locator.length : Nat := 20

/-- The locator in front of the end record at a place, if there is one. -/
def Locator.before? (s : Bytes) (place : Nat) : Option Locator :=
  let record := s.drop (place - Locator.length)
  if place < Locator.length || !locatorMark.isPrefixOf record then none
  else some ⟨numberAt record 4 4, numberAt record 8 8, numberAt record 16 4⟩

/-- The wide end record. -/
structure WideEndRecord where
  /-- The number of bytes behind this number. -/
  size : Nat
  /-- The version of the format that the archive was made with. -/
  madeBy : Nat
  /-- The version of the format that is needed to read the archive. -/
  needed : Nat
  record : EndRecord
  deriving DecidableEq, Repr

/-- Reads the wide end record at a place; the locator is at `stop`. -/
def WideEndRecord.read (s : Bytes) (place stop : Nat) : Except Fault WideEndRecord :=
  let record := s.drop place
  if record.length < 56 then .error .truncated
  else
    let size := numberAt record 4 8
    if size < 44 then .error .shortWideRecord
    else if stop - place < size + 12 then .error .longWideRecord
    else
      .ok
        { size
          madeBy := numberAt record 12 2
          needed := numberAt record 14 2
          record :=
            { disk := numberAt record 16 4
              directoryDisk := numberAt record 20 4
              countHere := numberAt record 24 8
              count := numberAt record 32 8
              directory := numberAt record 48 8 } }

/-- The wide end record at a place, if it agrees with the locator at `stop`. -/
def Locator.check (l : Locator) (s : Bytes) (stop place : Nat) : Except Fault WideEndRecord :=
  match WideEndRecord.read s place stop with
  | .error fault => .error fault
  | .ok wide =>
    if wide.record.directoryDisk ≠ l.directoryDisk then .error .otherDisk
    else if wide.size + 12 ≠ stop - place then .error .looseWideRecord
    else if place < wide.record.count * 46 + wide.record.directory then .error .tooManyFiles
    else .ok wide

/-- The first of several places with a wide end record that agrees with the locator at `stop`, and
that record. Where there is none, the last fault is reported. -/
def Locator.firstOf (l : Locator) (s : Bytes) (stop : Nat) (last : Fault) :
    List Nat → Except Fault (Nat × WideEndRecord)
  | [] => .error last
  | place :: rest =>
    match l.check s stop place with
    | .ok wide => .ok (place, wide)
    | .error fault => l.firstOf s stop fault rest

/-- Numbers in an archive are below this one. -/
def wideLimit : Nat := 0x10000000000000000

/-- The layout that a wide end record gives, unless it cannot be used. -/
def WideEndRecord.layout? (w : WideEndRecord) (shift : Nat) : Option Layout :=
  let directory := w.record.directory + shift
  if w.record.count < w.record.countHere || w.madeBy < w.needed ||
      w.record.disk ≠ w.record.directoryDisk || wideLimit ≤ directory then none
  else some ⟨shift, directory, w.record.count⟩

/-- The layout that the locator at `stop` leads to, unless it cannot be used. -/
def Locator.layout (l : Locator) (s : Bytes) (stop : Nat) : Except Fault (Option Layout) :=
  if stop ≤ l.offset then .error .misplacedWideRecord
  else if 1 < l.disks then .error .severalDisks
  else
    match l.firstOf s stop .noWideRecord (placesBetween wideEndMark s l.offset stop) with
    | .error fault => .error fault
    | .ok (place, wide) => .ok (wide.layout? (place - l.offset))

namespace EndRecord

/-- Whether the numbers of the record may be too small for the archive. -/
def mayBeNarrow (r : EndRecord) : Bool := r.count == 0xFFFF || r.directory == 0xFFFFFFFF

/-- The layout with a shift, unless it cannot be used: the directory has to be on the same disk. -/
def shifted? (r : EndRecord) (shift : Nat) : Option Layout :=
  if r.disk ≠ r.directoryDisk then none else some ⟨shift, r.directory + shift, r.countHere⟩

/-- The layout that the end record at a place gives by itself, unless it cannot be used. -/
def ownLayout (r : EndRecord) (s : Bytes) (place : Nat) : Except Fault (Option Layout) :=
  if r.count = 0 then .ok (r.shifted? (place - r.directory))
  else if place ≤ r.directory then .error .misplacedDirectory
  else
    match placesBetween directoryMark s r.directory place with
    | [] => .error .noDirectory
    | found :: _ => .ok (r.shifted? (found - r.directory))

/-- The layout that the end record at a place leads to, unless it cannot be used. -/
def layout (r : EndRecord) (s : Bytes) (place : Nat) : Except Fault (Option Layout) :=
  match if r.mayBeNarrow then Locator.before? s place else none with
  | some l => l.layout s (place - Locator.length)
  | none => r.ownLayout s place

end EndRecord

end SheetInspector.Zip
