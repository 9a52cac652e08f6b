set_option autoImplicit false

/-! # Sets of characters

A set of characters as the ranges of its code points, in ascending order, such that no two of
them overlap or touch. Below a limit, every such set has a complement of the same form.
-/

namespace SheetInspector.Pattern

/-- A set of characters. -/
structure Ranges where
  list : List (Nat × Nat)
  deriving DecidableEq, Repr

namespace Ranges

/-- The empty set. -/
def none : Ranges := ⟨[]⟩

/-- Whether a code point is in the set. -/
def contains (s : Ranges) (n : Nat) : Bool := s.list.any fun (low, high) => low ≤ n && n ≤ high

/-- Inserts a range into a list of ranges, and joins the ranges that it overlaps or touches. -/
def insertInto (low high : Nat) : List (Nat × Nat) → List (Nat × Nat)
  | [] => [(low, high)]
  | (a, b) :: rest =>
    if high + 1 < a then (low, high) :: (a, b) :: rest
    else if b + 1 < low then (a, b) :: insertInto low high rest
    else insertInto (min low a) (max high b) rest

/-- The set with the code points from `low` to `high` added. -/
def insert (s : Ranges) (low high : Nat) : Ranges := ⟨insertInto low high s.list⟩

/-- The set of the code points in given ranges. -/
def ofList (ranges : List (Nat × Nat)) : Ranges :=
  ranges.foldl (fun s (low, high) => s.insert low high) none

/-- The set of one character. -/
def single (c : Char) : Ranges := ⟨[(c.toNat, c.toNat)]⟩

/-- The set of what is in either of two sets. -/
def union (s t : Ranges) : Ranges := t.list.foldl (fun s (low, high) => s.insert low high) s

/-- The gaps between ranges, from `start` up to a limit. -/
def gaps (limit start : Nat) : List (Nat × Nat) → List (Nat × Nat)
  | [] => if start < limit then [(start, limit - 1)] else []
  | (a, b) :: rest =>
    if start < a then (start, a - 1) :: gaps limit (b + 1) rest else gaps limit (b + 1) rest

/-- The set of the code points below a limit that are not in a set. -/
def complement (limit : Nat) (s : Ranges) : Ranges := ⟨gaps limit 0 s.list⟩

/-- The set of what is in both of two sets. -/
def inter (limit : Nat) (s t : Ranges) : Ranges :=
  ((s.complement limit).union (t.complement limit)).complement limit

/-- The set of what is in the first of two sets alone. -/
def diff (limit : Nat) (s t : Ranges) : Ranges := s.inter limit (t.complement limit)

/-- The set of what is in exactly one of two sets. -/
def symmDiff (limit : Nat) (s t : Ranges) : Ranges := (s.union t).diff limit (s.inter limit t)

/-- Whether all code points of the set are below a limit. -/
def isBelow (limit : Nat) (s : Ranges) : Bool := s.list.all fun (_, high) => high < limit

/-- The set with both cases of the ASCII letters in it. -/
def foldCase (s : Ranges) : Ranges :=
  let upper := s.inter 0x80 ⟨[(0x41, 0x5A)]⟩
  let lower := s.inter 0x80 ⟨[(0x61, 0x7A)]⟩
  (s.union ⟨upper.list.map fun (low, high) => (low + 32, high + 32)⟩).union
    ⟨lower.list.map fun (low, high) => (low - 32, high - 32)⟩

end Ranges

end SheetInspector.Pattern
