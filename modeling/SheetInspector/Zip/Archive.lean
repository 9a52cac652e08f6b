import SheetInspector.Zip.Extra
import SheetInspector.Zip.Inflate
import SheetInspector.Zip.Layout

set_option autoImplicit false

/-! # ZIP archives

The directory of an archive says where the content of every entry is. Several entries may have
the same name, and the last one counts.

Entries are stored as they are or deflated. An entry that is encrypted, or compressed in
another way, cannot be opened.
-/

namespace SheetInspector.Zip

/-- How an entry is compressed. -/
inductive Method where
  | stored
  | deflated
  deriving DecidableEq, Repr

/-- An entry of an archive. -/
structure Entry where
  name : String
  /-- How the content is compressed, unless it cannot be opened. -/
  method : Option Method
  checksum : Nat
  /-- Where the entry begins in the file. -/
  place : Nat
  /-- The number of bytes that its content takes there. -/
  size : Nat
  deriving DecidableEq, Repr

/-- The number that stands for encryption in place of the method of an entry. -/
def encryptedMethod : Nat := 99

/-- How the entry with a header is compressed, unless it cannot be opened. -/
def Header.method? (h : Header) : Option Method :=
  if h.encrypted || h.strongly then none
  else if h.method = 0 then some .stored
  else if h.method = 8 then some .deflated
  else none

/-- The entry with a header; it has to begin in front of the directory. -/
def Layout.entry? (l : Layout) (h : Header) : Option Entry :=
  let place := h.offset + l.shift
  if (h.method = encryptedMethod && !h.strongly) || l.directory ≤ place then none
  else some ⟨h.name, h.method?, h.checksum, place, h.size⟩

/-- Reads so many directory entries. -/
def Layout.entriesFrom? (l : Layout) : Nat → Bytes → Option (List Entry)
  | 0, _ => some []
  | n + 1, s =>
    match readHeader? s with
    | none => none
    | some (h, extra, rest) =>
      match (h.withExtra? extra).bind l.entry? with
      | none => none
      | some e => (l.entriesFrom? n rest).map (e :: ·)

/-- The entries of an archive, unless one of them cannot be. -/
def Layout.entries? (l : Layout) (s : Bytes) : Option (List Entry) :=
  l.entriesFrom? l.count (s.drop l.directory)

/-- An archive in a file. -/
structure Archive where
  /-- The whole file. -/
  file : Bytes
  entries : List Entry
  deriving DecidableEq, Repr

/-- Reads an archive whose end record is at one of the given places; the first that leads to a
directory counts. Where none does, a fault met since the last place that led to anything like one
is reported: that of the last record that makes no sense, or else the first of those that cannot
be read. -/
def openAt (s : Bytes) (earlier : Option Fault) : List Nat → Except Fault Archive
  | [] => .error (earlier.getD .noEndRecord)
  | place :: rest =>
    match EndRecord.read s place with
    | .error fault => openAt s (some (earlier.getD fault)) rest
    | .ok record =>
      match record.layout s place with
      | .error fault => openAt s (some fault) rest
      | .ok layout =>
        match layout.bind (·.entries? s) with
        | some entries => .ok ⟨s, entries⟩
        | none => openAt s none rest

/-- Reads an archive. The end record is looked for from the end of the file. -/
def openArchive (s : Bytes) : Except Fault Archive := openAt s none (placesOf endMark 0 s).reverse

/-- What an entry holds: its bytes, in the pieces in which they are handed on, and the damage that
shows at their end, if any. -/
structure Content where
  pieces : List Bytes
  damage : Option String
  deriving DecidableEq, Repr

namespace Content

/-- The bytes of a content. -/
def bytes (c : Content) : Bytes := c.pieces.flatten

/-- Content that is complete if its checksum is right. -/
def checked (checksum : Nat) (pieces : List Bytes) : Content :=
  ⟨pieces,
    if (crc32 pieces.flatten).toNat = checksum then none else some "Invalid checksum"⟩

/-- The content that compressed bytes stand for. -/
def decompress (checksum : Nat) (raw : Bytes) : Method → Content
  | .stored => checked checksum (inPieces raw)
  | .deflated =>
    let r := inflate raw
    match r.stop with
    | none => checked checksum r.pieces
    | some .short => ⟨r.pieces, some "incomplete deflate stream"⟩
    | some .corrupt => ⟨r.pieces, some "corrupt deflate stream"⟩

end Content

namespace Archive

/-- The content of an entry, if it can be opened. It stands behind a record of its own. -/
def contentOf? (a : Archive) (e : Entry) : Option Content :=
  let record := a.file.drop e.place
  if !contentMark.isPrefixOf record || record.length < 30 then none
  else
    let start := 30 + numberAt record 26 2 + numberAt record 28 2
    e.method.map (Content.decompress e.checksum ((record.drop start).take e.size))

/-- The content of the entry with a name, if there is one that can be opened. -/
def content? (a : Archive) (name : String) : Option Content :=
  (a.entries.reverse.find? (·.name = name)).bind a.contentOf?

end Archive

end SheetInspector.Zip
