import EntryScan.Lookbehind

/-!
# EntryScan.Proofs.Lookbehind

What a pass over readings collects, said without the pass: every instruction is visited with its
look-behind, which is the last reading before it that is no marker, if that is an instruction.
-/

namespace EntryScan
namespace Reading

/-- The look-behind after earlier readings, where `previous` was there before them: the last of them
that is no marker decides, and a failed one leaves nothing. -/
def lookbehindFrom (previous : Option Instruction) (earlier : List Reading) :
    Option Instruction :=
  match (earlier.filter (· ≠ .marker)).getLast? with
  | none => previous
  | some (.insn i) => some i
  | some _ => none

/-- The look-behind after all readings before it. -/
def lookbehind (earlier : List Reading) : Option Instruction :=
  lookbehindFrom none earlier

/-- The look-behind is taken on from reading to reading. -/
theorem lookbehindFrom_cons (previous : Option Instruction) (r : Reading) (rs : List Reading) :
    lookbehindFrom previous (r :: rs) = lookbehindFrom (lookbehindFrom previous [r]) rs := by
  by_cases hr : r = .marker
  · subst hr
    rfl
  · have hone : [r].filter (· ≠ .marker) = [r] := by simp [hr]
    have hcons : (r :: rs).filter (· ≠ .marker) = r :: rs.filter (· ≠ .marker) := by simp [hr]
    rw [lookbehindFrom, hcons, List.getLast?_cons]
    unfold lookbehindFrom
    rw [hone]
    cases (rs.filter (· ≠ .marker)).getLast? with
    | none => cases r <;> rfl
    | some last => cases last <;> rfl

theorem mem_of_lookbehindFrom {previous : Option Instruction} {earlier : List Reading}
    {i : Instruction} (h : lookbehindFrom previous earlier = some i) :
    previous = some i ∨ .insn i ∈ earlier := by
  unfold lookbehindFrom at h
  split at h
  · exact Or.inl h
  · rename_i j hlast
    cases h
    exact Or.inr (List.mem_filter.mp (List.mem_of_getLast? hlast)).1
  · cases h

theorem mem_of_lookbehind {earlier : List Reading} {i : Instruction}
    (h : lookbehind earlier = some i) : .insn i ∈ earlier := by
  rcases mem_of_lookbehindFrom h with hnone | hmem
  · cases hnone
  · exact hmem

/-- What a pass makes of one reading. -/
def visited {α : Type} (visit : Option Instruction → Instruction → List α)
    (previous : Option Instruction) : Reading → List α
  | .insn i => visit previous i
  | _ => []

theorem collectFrom_cons {α : Type} (visit : Option Instruction → Instruction → List α)
    (previous : Option Instruction) (r : Reading) (rs : List Reading) :
    collectFrom visit previous (r :: rs) =
      visited visit previous r ++ collectFrom visit (lookbehindFrom previous [r]) rs := by
  cases r <;> rfl

/-- A pass over one part and then another carries over the look-behind and nothing else. -/
theorem collectFrom_append {α : Type} (visit : Option Instruction → Instruction → List α)
    (previous : Option Instruction) (rs rs' : List Reading) :
    collectFrom visit previous (rs ++ rs') =
      collectFrom visit previous rs ++ collectFrom visit (lookbehindFrom previous rs) rs' := by
  induction rs generalizing previous with
  | nil => rfl
  | cons r rs ih =>
    rw [List.cons_append, collectFrom_cons, collectFrom_cons, ih, ← lookbehindFrom_cons,
      List.append_assoc]

theorem collect_append {α : Type} (visit : Option Instruction → Instruction → List α)
    (rs rs' : List Reading) :
    collect visit (rs ++ rs') = collect visit rs ++ collectFrom visit (lookbehind rs) rs' :=
  collectFrom_append visit none rs rs'

/-- A look-behind that no visit tells from another one may be replaced by it. -/
theorem collectFrom_congr {α : Type} {visit : Option Instruction → Instruction → List α}
    {previous previous' : Option Instruction} (h : visit previous = visit previous')
    (rs : List Reading) : collectFrom visit previous rs = collectFrom visit previous' rs := by
  induction rs with
  | nil => rfl
  | cons r rs ih =>
    cases r with
    | marker => exact ih
    | failed => rfl
    | insn i => simp only [collectFrom, h]

/-- A pass collects what it makes of each instruction and its look-behind, and nothing else. -/
theorem mem_collectFrom {α : Type} {visit : Option Instruction → Instruction → List α}
    {previous : Option Instruction} {rs : List Reading} {x : α} :
    x ∈ collectFrom visit previous rs ↔
      ∃ earlier i later, rs = earlier ++ .insn i :: later ∧
        x ∈ visit (lookbehindFrom previous earlier) i := by
  induction rs generalizing previous with
  | nil => simp [collectFrom]
  | cons r rs ih =>
    rw [collectFrom_cons, List.mem_append, ih]
    constructor
    · rintro (hx | ⟨earlier, i, later, rfl, hx⟩)
      · cases r with
        | failed => cases hx
        | marker => cases hx
        | insn i => exact ⟨[], i, rs, rfl, hx⟩
      · refine ⟨r :: earlier, i, later, rfl, ?_⟩
        rw [lookbehindFrom_cons]
        exact hx
    · rintro ⟨earlier, i, later, hrs, hx⟩
      cases earlier with
      | nil =>
        cases hrs
        exact Or.inl hx
      | cons r' earlier =>
        cases hrs
        rw [lookbehindFrom_cons] at hx
        exact Or.inr ⟨earlier, i, later, rfl, hx⟩

theorem mem_collect {α : Type} {visit : Option Instruction → Instruction → List α}
    {rs : List Reading} {x : α} :
    x ∈ collect visit rs ↔
      ∃ earlier i later, rs = earlier ++ .insn i :: later ∧ x ∈ visit (lookbehind earlier) i :=
  mem_collectFrom

theorem mem_instructions {rs : List Reading} {i : Instruction} :
    i ∈ instructions rs ↔ .insn i ∈ rs := by
  simp only [instructions, List.mem_filterMap]
  constructor
  · rintro ⟨r, hr, hi⟩
    cases r with
    | failed => cases hi
    | marker => cases hi
    | insn j => cases hi; exact hr
  · intro hi
    exact ⟨.insn i, hi, rfl⟩

theorem instructions_pairwise {R : Instruction → Instruction → Prop} {rs : List Reading}
    (h : rs.Pairwise fun r r' => ∀ i j, r = .insn i → r' = .insn j → R i j) :
    (instructions rs).Pairwise R := by
  refine List.Pairwise.filterMap _ ?_ h
  intro r r' hr i hi j hj
  cases r with
  | failed => cases hi
  | marker => cases hi
  | insn i =>
    cases r' with
    | failed => cases hj
    | marker => cases hj
    | insn j =>
      cases hi
      cases hj
      exact hr i j rfl rfl

end Reading
end EntryScan
