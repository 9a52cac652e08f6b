import Mathlib.Tactic
import SheetInspector.Address.Order

set_option autoImplicit false

/-! # Lists of addresses in order

What a sheet lists it lists in strictly increasing order of addresses. Such a list names no
address twice, and it is determined by the addresses in it.
-/

namespace SheetInspector.Address

theorem compare_ne_lt_self (a : Address) : compare a a ≠ .lt := by
  rw [compare_eq_eq.mpr rfl]
  simp

theorem ne_of_compare_eq_lt {a b : Address} (h : compare a b = .lt) : a ≠ b := by
  rintro rfl
  exact compare_ne_lt_self a h

/-- A list of addresses that increases strictly. -/
def Ordered (as : List Address) : Prop := as.Pairwise fun a b => compare a b = .lt

namespace Ordered

theorem nodup {as : List Address} (h : Ordered as) : as.Nodup :=
  List.Pairwise.imp (fun hab => ne_of_compare_eq_lt hab) h

theorem sublist {as bs : List Address} (h : Ordered bs) (hs : as.Sublist bs) : Ordered as :=
  List.Pairwise.sublist hs h

/-- **An ordered list is determined by its members.** -/
theorem eq_of_mem_iff {as bs : List Address} (ha : Ordered as) (hb : Ordered bs)
    (h : ∀ a, a ∈ as ↔ a ∈ bs) : as = bs := by
  have hperm : as.Perm bs := (List.perm_ext_iff_of_nodup ha.nodup hb.nodup).mpr h
  refine hperm.eq_of_pairwise (fun a b _ _ hab hba => ?_) ha hb
  rw [compare_swap, hba] at hab
  cases hab

end Ordered

end SheetInspector.Address
