import EntryScan.CallGraph
import Mathlib.Data.List.Sort

/-!
# EntryScan.Proofs.Owner

The candidate that a call site belongs to.

* `lt_bisectRight_iff`: the bisection counts the entries of an ascending array that are at most `x`.
* `owner?_eq_some_iff`, `owner?_eq_none_iff`: so it finds the greatest start at or below an address,
  unless every start is above it.
* `owner?_nearest`: the two together, with how the start found moves with the address.
* `CallGraph.Owns`: the same, said of candidates.
-/

namespace EntryScan

/-! ## Bisection -/

section Bisection

variable {starts : Array Int} {x : Int}

theorem getElem?_eq_getD {i : Nat} (h : i < starts.size) : starts[i]? = some (starts.getD i 0) := by
  rw [Array.getD_eq_getD_getElem?, Array.getElem?_eq_getElem h, Option.getD_some]

theorem getElem?_le_of_le (hasc : starts.toList.Pairwise (· ≤ ·)) {i j : Nat} {a b : Int}
    (ha : starts[i]? = some a) (hb : starts[j]? = some b) (hij : i ≤ j) : a ≤ b := by
  obtain ⟨hi, rfl⟩ := Array.getElem?_eq_some_iff.mp ha
  obtain ⟨hj, rfl⟩ := Array.getElem?_eq_some_iff.mp hb
  rcases Nat.eq_or_lt_of_le hij with rfl | hlt
  · exact Int.le_refl _
  · exact List.pairwise_iff_getElem.mp hasc i j hi hj hlt

theorem bisectRight_le {lo hi : Nat} (hle : lo ≤ hi) : bisectRight starts x lo hi ≤ hi := by
  fun_induction bisectRight starts x lo hi with
  | case1 lo hi hlt mid hx ih =>
    have hmid : mid = (lo + hi) / 2 := rfl
    have hbound := ih (by omega)
    omega
  | case2 lo hi hlt mid hx ih =>
    have hmid : mid = (lo + hi) / 2 := rfl
    exact ih (by omega)
  | case3 lo hi hlt => exact hle

/-- The loop of the bisection. Entries below `lo` are at most `x` and entries from `hi` on are above
it; each turn keeps this so, and it ends where the two meet. -/
theorem lt_bisectRight_iff_of_bounds (hasc : starts.toList.Pairwise (· ≤ ·)) {lo hi : Nat}
    (hle : lo ≤ hi) (hsize : hi ≤ starts.size)
    (hlow : ∀ j a, starts[j]? = some a → j < lo → a ≤ x)
    (hhigh : ∀ j a, starts[j]? = some a → hi ≤ j → x < a) :
    ∀ j a, starts[j]? = some a → (j < bisectRight starts x lo hi ↔ a ≤ x) := by
  fun_induction bisectRight starts x lo hi with
  | case1 lo hi hlt mid hx ih =>
    have hmid : mid = (lo + hi) / 2 := rfl
    have hm := getElem?_eq_getD (show mid < starts.size by omega)
    refine ih (by omega) (by omega) hlow ?_
    intro j a ha hj
    exact Int.lt_of_lt_of_le hx (getElem?_le_of_le hasc hm ha hj)
  | case2 lo hi hlt mid hx ih =>
    have hmid : mid = (lo + hi) / 2 := rfl
    have hm := getElem?_eq_getD (show mid < starts.size by omega)
    refine ih (by omega) hsize ?_ hhigh
    intro j a ha hj
    have ham := getElem?_le_of_le hasc ha hm (by omega)
    omega
  | case3 lo hi hlt =>
    intro j a ha
    constructor
    · exact hlow j a ha
    · intro hax
      by_contra hj
      have hxa := hhigh j a ha (by omega)
      omega

theorem lt_bisectRight_iff (hasc : starts.toList.Pairwise (· ≤ ·)) {j : Nat} {a : Int}
    (ha : starts[j]? = some a) : j < bisectRight starts x 0 starts.size ↔ a ≤ x := by
  refine lt_bisectRight_iff_of_bounds hasc (Nat.zero_le _) (Nat.le_refl _) ?_ ?_ j a ha
  · intro j a _ hj
    omega
  · intro j a ha hj
    obtain ⟨hlt, _⟩ := Array.getElem?_eq_some_iff.mp ha
    omega

/-- The greatest start at or below an address is found, if there is one. -/
theorem owner?_eq_some_iff (hasc : starts.toList.Pairwise (· ≤ ·)) {a : Int} :
    owner? starts x = some a ↔ a ∈ starts ∧ a ≤ x ∧ ∀ b ∈ starts, b ≤ x → b ≤ a := by
  unfold owner?
  constructor
  · intro h
    split at h
    · cases h
    · rename_i n hn
      refine ⟨Array.mem_of_getElem? h, (lt_bisectRight_iff hasc h).mp (by omega), ?_⟩
      intro b hb hbx
      obtain ⟨j, hj⟩ := Array.getElem?_of_mem hb
      have hjn := (lt_bisectRight_iff hasc hj).mpr hbx
      exact getElem?_le_of_le hasc hj h (by omega)
  · rintro ⟨hmem, hax, hgreatest⟩
    obtain ⟨j, hj⟩ := Array.getElem?_of_mem hmem
    have hjn := (lt_bisectRight_iff hasc hj).mpr hax
    split
    · omega
    · rename_i n hn
      -- the last start at or below `x` is not below `a`, nor above it
      have hsize : bisectRight starts x 0 starts.size ≤ starts.size :=
        bisectRight_le (Nat.zero_le _)
      have hlast := getElem?_eq_getD (show n < starts.size by omega)
      have hbx : starts.getD n 0 ≤ x := (lt_bisectRight_iff hasc hlast).mp (by omega)
      have hab := getElem?_le_of_le hasc hj hlast (by omega)
      have hba := hgreatest _ (Array.mem_of_getElem? hlast) hbx
      rw [hlast, Int.le_antisymm hba hab]

/-- Nothing is found only where every start is above the address. -/
theorem owner?_eq_none_iff (hasc : starts.toList.Pairwise (· ≤ ·)) :
    owner? starts x = none ↔ ∀ a ∈ starts, x < a := by
  constructor
  · intro h a ha
    obtain ⟨j, hj⟩ := Array.getElem?_of_mem ha
    by_contra hle
    have hjn := (lt_bisectRight_iff hasc hj).mpr (Int.not_lt.mp hle)
    have hsize : bisectRight starts x 0 starts.size ≤ starts.size :=
      bisectRight_le (Nat.zero_le _)
    unfold owner? at h
    split at h
    · omega
    · rename_i n hn
      rw [getElem?_eq_getD (by omega)] at h
      cases h
  · intro habove
    cases h : owner? starts x with
    | none => rfl
    | some a =>
      obtain ⟨hmem, hax, _⟩ := (owner?_eq_some_iff hasc).mp h
      have hxa := habove a hmem
      omega

/-- A greater address has no lesser start; nothing counts as less than any start. -/
theorem owner?_le_owner? (hasc : starts.toList.Pairwise (· ≤ ·)) {y : Int} (hxy : x ≤ y) :
    owner? starts x ≤ owner? starts y := by
  cases hx : owner? starts x with
  | none => exact Option.none_le
  | some a =>
    obtain ⟨hmem, hax, _⟩ := (owner?_eq_some_iff hasc).mp hx
    cases hy : owner? starts y with
    | none =>
      have hya := (owner?_eq_none_iff hasc).mp hy a hmem
      omega
    | some b =>
      obtain ⟨_, _, hgreatest⟩ := (owner?_eq_some_iff hasc).mp hy
      exact Option.some_le_some.mpr (hgreatest a hmem (Int.le_trans hax hxy))

theorem owner?_eq_self_iff (hasc : starts.toList.Pairwise (· ≤ ·)) :
    owner? starts x = some x ↔ x ∈ starts := by
  rw [owner?_eq_some_iff hasc]
  constructor
  · intro h
    exact h.1
  · intro hmem
    exact ⟨hmem, Int.le_refl x, fun b _ hbx => hbx⟩

/-- **The bisection finds the nearest start at or below an address.** For every ascending array of
starts, with or without repetitions, and every address: nothing is found exactly if all starts are
above the address, and what is found is the greatest of those that are not. So the start found never
moves down as the address moves up, nothing being the least, and it is the address itself exactly if
the address is one of the starts. -/
theorem owner?_nearest (starts : Array Int) (hasc : starts.toList.Pairwise (· ≤ ·)) :
    (∀ x : Int, owner? starts x = none ↔ ∀ a ∈ starts, x < a) ∧
    (∀ x a : Int, owner? starts x = some a ↔
      a ∈ starts ∧ a ≤ x ∧ ∀ b ∈ starts, b ≤ x → b ≤ a) ∧
    (∀ x y : Int, x ≤ y → owner? starts x ≤ owner? starts y) ∧
    ∀ x : Int, owner? starts x = some x ↔ x ∈ starts := by
  refine ⟨?_, ?_, ?_, ?_⟩
  · intro x
    exact owner?_eq_none_iff hasc
  · intro x a
    exact owner?_eq_some_iff hasc
  · intro x y hxy
    exact owner?_le_owner? hasc hxy
  · intro x
    exact owner?_eq_self_iff hasc

/-- One start is listed twice. Addresses below the first start, at the repeated one, behind it and
behind the last. -/
theorem owner?_nearest_listed_twice :
    let starts : Array Int := #[0x100, 0x200, 0x200, 0x300]
    owner? starts 0xff = none ∧ owner? starts 0x200 = some 0x200 ∧
      owner? starts 0x2ff = some 0x200 ∧ owner? starts 0x999 = some 0x300 ∧
      owner? starts 0xff ≤ owner? starts 0x2ff := by
  intro starts
  obtain ⟨hnone, hsome, hmono, hself⟩ := owner?_nearest starts (by decide)
  refine ⟨(hnone _).mpr ?_, (hself _).mpr ?_, (hsome _ _).mpr ?_, (hsome _ _).mpr ?_,
    hmono _ _ (by decide)⟩ <;> simp [starts]

end Bisection

/-! ## Owners -/

namespace CallGraph

/-- Of the candidates at or below `s` that are no bare jump targets, the last stands at `a`. -/
def Owns (cs : List Candidate) (a s : Int) : Prop :=
  (∃ x ∈ cs, x.detection ≠ .jumpTarget ∧ x.address = a) ∧ a ≤ s ∧
    ∀ x ∈ cs, x.detection ≠ .jumpTarget → x.address ≤ s → x.address ≤ a

instance (cs : List Candidate) (a s : Int) : Decidable (Owns cs a s) :=
  inferInstanceAs (Decidable (_ ∧ _ ∧ _))

theorem mem_owners {cs : List Candidate} {a : Int} :
    a ∈ owners cs ↔ ∃ x ∈ cs, x.detection ≠ .jumpTarget ∧ x.address = a := by
  simp [owners, and_assoc]

theorem owners_ascending (cs : List Candidate) : (owners cs).toList.Pairwise (· ≤ ·) :=
  List.pairwise_mergeSort' (· ≤ ·) _

theorem owner?_owners {cs : List Candidate} {a s : Int} :
    owner? (owners cs) s = some a ↔ Owns cs a s := by
  rw [owner?_eq_some_iff (owners_ascending cs), mem_owners, Owns]
  refine and_congr_right' (and_congr_right' ?_)
  constructor
  · intro h x hx hkind hle
    exact h x.address (mem_owners.mpr ⟨x, hx, hkind, rfl⟩) hle
  · intro h b hb hle
    obtain ⟨x, hx, hkind, rfl⟩ := mem_owners.mp hb
    exact h x hx hkind hle

end CallGraph
end EntryScan
