import SheetInspector.Zip.Checksum
import SheetInspector.Zip.Record

set_option autoImplicit false

/-! # Packing

The plainest archive with given entries: the contents, stored as they are, then the directory,
then the end record.
-/

namespace SheetInspector.Zip

/-- The fields that an entry's content and its directory entry share. -/
def commonFields (name content : Bytes) : Bytes :=
  bytesOfNat 2 20 ++ bytesOfNat 2 2048 ++ bytesOfNat 2 0 ++ bytesOfNat 2 0 ++ bytesOfNat 2 33 ++
    bytesOfNat 4 (crc32 content).toNat ++ bytesOfNat 4 content.length ++
    bytesOfNat 4 content.length ++ bytesOfNat 2 name.length ++ bytesOfNat 2 0

/-- A stored entry. -/
def packContent (name content : Bytes) : Bytes :=
  contentMark ++ commonFields name content ++ name ++ content

/-- The directory entry of a stored entry that begins at `offset`. -/
def packDirectory (name content : Bytes) (offset : Nat) : Bytes :=
  directoryMark ++ bytesOfNat 2 20 ++ commonFields name content ++ bytesOfNat 2 0 ++
    bytesOfNat 2 0 ++ bytesOfNat 2 0 ++ bytesOfNat 4 0 ++ bytesOfNat 4 offset ++ name

/-- Packs entries from `offset` on: gives their contents and their directory. -/
def packFrom (offset : Nat) : List (String × Bytes) → Bytes × Bytes
  | [] => ([], [])
  | (name, content) :: rest =>
    let raw := Utf8.encodeText name
    let packed := packContent raw content
    let (contents, directory) := packFrom (offset + packed.length) rest
    (packed ++ contents, packDirectory raw content offset ++ directory)

/-- The archive of stored entries with the given names and contents. -/
def pack (entries : List (String × Bytes)) : Bytes :=
  let (contents, directory) := packFrom 0 entries
  contents ++ directory ++ endMark ++ bytesOfNat 2 0 ++ bytesOfNat 2 0 ++
    bytesOfNat 2 entries.length ++ bytesOfNat 2 entries.length ++
    bytesOfNat 4 directory.length ++ bytesOfNat 4 contents.length ++ bytesOfNat 2 0

end SheetInspector.Zip
