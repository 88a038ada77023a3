import EntryScan.Address
import Mathlib

/-!
# EntryScan.Proofs.Address

Wrapped addresses as remainders modulo `2 ^ 64`, and as signed numbers of 64 bits.
-/

namespace EntryScan
namespace Address

theorem space_eq : space = 2 ^ 64 := by
  norm_num [space]

theorem wrap_eq_emod (n : Int) : wrap n = n % 2 ^ 64 := by
  rw [wrap, space_eq]

@[simp] theorem wrap_wrap (n : Int) : wrap (wrap n) = wrap n := by
  simp only [wrap_eq_emod]
  omega

theorem wrap_wrap_add (a n : Int) : wrap (wrap a + n) = wrap (a + n) := by
  simp only [wrap_eq_emod]
  omega

/-- The lower half of the addresses are the numbers that are not negative. -/
theorem signed_of_lt {n : Int} (h : n % 2 ^ 64 < 2 ^ 63) : signed n = n % 2 ^ 64 := by
  rw [signed, wrap_eq_emod, if_pos]
  omega

/-- Apart from zero, the addresses of the lower half are the positive ones. -/
theorem signed_pos_iff {n : Int} :
    0 < signed n ↔ 0 < n % 2 ^ 64 ∧ n % 2 ^ 64 < 2 ^ 63 := by
  rw [signed, wrap_eq_emod, space_eq]
  split <;> omega

end Address
end EntryScan
