import Std.Data.TreeMap
import Std.Data.TreeSet
import SheetInspector.Address.Basic

set_option autoImplicit false

/-! # The order of addresses

The comparison of addresses is a linear order, which is what the ordered maps from addresses
to content need.
-/

namespace SheetInspector.Address

theorem compare_swap (a b : Address) : compare a b = (compare b a).swap := by
  cases h : compare b a with
  | lt =>
    rw [compare_eq_lt] at h
    rw [Ordering.swap_lt, compare_eq_gt]
    omega
  | eq =>
    rw [compare_eq_eq] at h
    rw [Ordering.swap_eq, compare_eq_eq, h]
  | gt =>
    rw [compare_eq_gt] at h
    rw [Ordering.swap_gt, compare_eq_lt]
    omega

instance : Std.OrientedCmp compare where
  eq_swap := compare_swap _ _

instance : Std.LawfulEqCmp compare where
  compare_self := compare_eq_eq.2 rfl
  eq_of_compare := compare_eq_eq.1

instance : Std.TransCmp compare where
  isLE_trans := by
    intro a b c hab hbc
    simp only [Ordering.isLE_iff_ne_gt, compare_eq_gt] at hab hbc ⊢
    omega

end SheetInspector.Address
