import SheetInspector.Text.Utf8

set_option autoImplicit false

/-! # Records of separated fields

How bytes are cut into records and fields. A record ends at a line feed, a carriage return or
the two together, and lines without a single byte are no records. A field may be quoted from
its first byte on; within quotes a doubled quote stands for one, and whatever follows the
closing quote belongs to the field as it is. A quote that is never closed takes in everything
up to the end.

Bytes are read one at a time by `Scan.step`. A byte is first taken for a quote where one can
stand, then for the delimiter, then for a line end; only before the first field of a record do
line ends come first.
-/

namespace SheetInspector.Csv

/-- The two bytes that the shape of a file depends on. -/
structure Dialect where
  delimiter : UInt8
  quote : UInt8
  deriving DecidableEq, Repr

/-- A place in a file: bytes before it, and one more than the line feeds before it. -/
structure Place where
  byte : Nat
  line : Nat
  deriving DecidableEq, Repr

/-- The undecoded fields of one record, and the place where the reading of it began. -/
structure RawRecord where
  start : Place
  fields : List Bytes
  deriving DecidableEq, Repr

/-- Where the reading of a record stands. -/
inductive Mode where
  /-- Before the first byte of a record. -/
  | recordStart
  /-- Before the first byte of a field other than the first. -/
  | fieldStart
  /-- Within a field, outside quotes. -/
  | unquoted
  /-- Within quotes. -/
  | quoted
  /-- After a quote within quotes. -/
  | quoteSeen
  deriving DecidableEq, Repr

/-- What has been read so far. The lists are in reverse order. -/
structure Scan where
  mode : Mode
  field : Bytes
  fields : List Bytes
  records : List RawRecord
  /-- Where the reading of the current record began. -/
  start : Place
  /-- The place after the last byte. -/
  here : Place
  deriving DecidableEq, Repr

namespace Scan

/-- The start of the reading of a file. -/
def initial (start here : Place) : Scan := ⟨.recordStart, [], [], [], start, here⟩

/-- Adds a byte to the field. -/
def push (s : Scan) (b : UInt8) (mode : Mode) : Scan := { s with field := b :: s.field, mode }

/-- Ends the field, and another one begins. -/
def endField (s : Scan) : Scan :=
  { s with mode := .fieldStart, field := [], fields := s.field.reverse :: s.fields }

/-- Ends the field and the record. -/
def endRecord (s : Scan) : Scan :=
  { s with
    mode := .recordStart
    field := []
    fields := []
    records := ⟨s.start, (s.field.reverse :: s.fields).reverse⟩ :: s.records
    start := s.here }

/-- Whether a byte ends a line. -/
def isLineEnd (b : UInt8) : Bool := b == 10 || b == 13

/-- A byte that is no quote of importance: the delimiter, a line end, or part of the field. -/
def plain (d : Dialect) (s : Scan) (b : UInt8) : Scan :=
  if b = d.delimiter then s.endField
  else if isLineEnd b then s.endRecord
  else s.push b .unquoted

/-- The first byte of a field. -/
def first (d : Dialect) (s : Scan) (b : UInt8) : Scan :=
  if b = d.quote then { s with mode := .quoted } else s.plain d b

/-- The reading of one byte, whose place has been counted already. -/
def read (d : Dialect) (s : Scan) (b : UInt8) : Scan :=
  match s.mode with
  | .recordStart => if isLineEnd b then s else s.first d b
  | .fieldStart => s.first d b
  | .unquoted => s.plain d b
  | .quoted => if b = d.quote then { s with mode := .quoteSeen } else s.push b .quoted
  | .quoteSeen => if b = d.quote then s.push b .quoted else s.plain d b

/-- The place after a byte. -/
def placeAfter (p : Place) (b : UInt8) : Place :=
  ⟨p.byte + 1, if b = 10 then p.line + 1 else p.line⟩

/-- The reading of one byte. -/
def step (d : Dialect) (s : Scan) (b : UInt8) : Scan :=
  { s with here := placeAfter s.here b }.read d b

/-- The records after the last byte: a record that has begun ends there. -/
def finish (s : Scan) : List RawRecord :=
  match s.mode with
  | .recordStart => s.records.reverse
  | _ => s.endRecord.records.reverse

end Scan

/-- Cuts bytes into records. A byte order mark in front is skipped, but counted. -/
def records (d : Dialect) (s : Bytes) : List RawRecord :=
  let start : Place := ⟨0, 1⟩
  let scan :=
    if byteOrderMark.isPrefixOf s then
      (s.drop 3).foldl (Scan.step d) (Scan.initial start ⟨3, 1⟩)
    else s.foldl (Scan.step d) (Scan.initial start start)
  scan.finish

/-- A record with a field that is not UTF-8. -/
structure RecordFault where
  /-- The number of the record, counted from zero. -/
  record : Nat
  start : Place
  /-- The number of the field, counted from zero. -/
  field : Nat
  /-- How many bytes of the field are in order. -/
  index : Nat
  deriving DecidableEq, Repr

/-- The report of the fault. -/
def RecordFault.message (f : RecordFault) : String :=
  "CSV parse error: record " ++ toString f.record ++ " (line " ++ toString f.start.line ++
    ", field: " ++ toString f.field ++ ", byte: " ++ toString f.start.byte ++
    "): invalid utf-8: invalid UTF-8 in field " ++ toString f.field ++ " near byte index " ++
    toString f.index

/-- Decodes the fields from number `field` on of a record. -/
def decodeFields (record : Nat) (start : Place) (field : Nat) :
    List Bytes → Except RecordFault (List String)
  | [] => .ok []
  | f :: rest =>
    match Utf8.decodeText f with
    | .error fault => .error ⟨record, start, field, fault.index⟩
    | .ok text => (decodeFields record start (field + 1) rest).map (text :: ·)

/-- Decodes all records. -/
def decodeRecords (rs : List RawRecord) : List (Except RecordFault (List String)) :=
  rs.mapIdx fun i r => decodeFields i r.start 0 r.fields

end SheetInspector.Csv
