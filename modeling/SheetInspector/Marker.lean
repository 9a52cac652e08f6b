import SheetInspector.Content

set_option autoImplicit false

/-! # Formula markers

A well-formed formula starts with exactly one marker `=`. A generator that puts a marker
before a text that has one already produces `==SUM(…)`; a formula without any marker is a
defect too. Both are reported, and neither is mended.
-/

namespace SheetInspector

/-- What is wrong with the marker of a formula. -/
inductive MarkerAnomaly where
  /-- More than one leading marker. -/
  | duplicate (markers : Nat)
  /-- No leading marker. -/
  | missing
  deriving DecidableEq, Repr

namespace MarkerAnomaly

/-- The number of markers that a text starts with. -/
def leadingMarkers (text : String) : Nat := (text.toList.takeWhile (· == formulaMarker)).length

/-- What is wrong with the marker of a formula's text, if anything is. -/
def detect? (text : String) : Option MarkerAnomaly :=
  match leadingMarkers text with
  | 0 => some .missing
  | 1 => none
  | markers => some (.duplicate markers)

/-- The report of an anomaly. -/
def text : MarkerAnomaly → String
  | .duplicate markers => "duplicate formula marker (" ++ toString markers ++ "x '=')"
  | .missing => "missing formula marker '='"

end MarkerAnomaly

end SheetInspector
