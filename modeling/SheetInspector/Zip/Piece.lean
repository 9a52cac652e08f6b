import SheetInspector.Text.Utf8

set_option autoImplicit false

/-! # Pieces

Content is handed on in pieces of a limited size. Bytes that are there already are cut into such
pieces. Bytes that come in stretches fill a piece from several stretches, unless the source
pauses between them; the rest of a stretch that overfills a piece makes pieces of its own.
-/

namespace SheetInspector.Zip

/-- The greatest size of a piece. -/
def pieceSize : Nat := 8192

/-- Bytes cut into pieces. -/
def inPieces (s : Bytes) : List Bytes :=
  match s with
  | [] => []
  | b :: rest => (b :: rest).take pieceSize :: inPieces ((b :: rest).drop pieceSize)
termination_by s.length
decreasing_by
  simp only [List.length_drop, List.length_cons, pieceSize]
  omega

/-- Bytes that come at once. -/
structure Stretch where
  bytes : Bytes
  /-- Whether the source pauses behind them. -/
  pauses : Bool
  deriving DecidableEq, Repr

/-- The pieces of stretches behind bytes that are held for a piece not yet full. At the end such
bytes make a last piece if the stretches are `complete`, and are lost otherwise. -/
def piecesOf (complete : Bool) (held : Bytes) : List Stretch → List Bytes
  | [] => if complete then inPieces held else []
  | stretch :: rest =>
    let filled := held ++ stretch.bytes
    if pieceSize ≤ filled.length || stretch.pauses then
      inPieces filled ++ piecesOf complete [] rest
    else piecesOf complete filled rest

end SheetInspector.Zip
