import EntryScan.Candidate.Merge
import EntryScan.Proofs.AddressMap
import Mathlib.Data.List.Sort

/-!
# EntryScan.Proofs.Merge

Merging works address by address. `evidenceAt` is the evidence that prologues and edges give for
one address, gathered from those that speak for this address alone.

* `mem_merge`: the candidates are the addresses that are spoken for, each with its own evidence.
* `merge_ascending`: they stand in ascending order, one at each address.
* `mem_sources`, `prologueKind_isSome_iff`: what the evidence for an address holds.
* `merge_filter`: merging commutes with the restriction to a set of addresses.
-/

namespace EntryScan

namespace Evidence

/-- The sources of the edges of a kind. -/
def sources (kind : EdgeKind) (e : Evidence) : List Int :=
  match kind with
  | .call => e.calledFrom
  | .jump => e.jumpedFrom

@[simp] theorem sources_addEdge (kind kind' : EdgeKind) (source : Int) (e : Evidence) :
    (e.addEdge kind' source).sources kind =
      if kind' = kind then insertAddress source (e.sources kind) else e.sources kind := by
  cases kind <;> cases kind' <;> rfl

@[simp] theorem sources_addPrologue (c : Config) (k : PrologueKind) (kind : EdgeKind)
    (e : Evidence) : (e.addPrologue c k).sources kind = e.sources kind := by
  unfold addPrologue
  split
  · cases kind <;> rfl
  · split
    · cases kind <;> rfl
    · rfl

@[simp] theorem prologueKind_addEdge (kind : EdgeKind) (source : Int) (e : Evidence) :
    (e.addEdge kind source).prologueKind = e.prologueKind := by
  cases kind <;> rfl

theorem prologueKind_addPrologue_isSome (c : Config) (k : PrologueKind) (e : Evidence) :
    (e.addPrologue c k).prologueKind.isSome := by
  unfold addPrologue
  split
  · rfl
  · rename_i old hold
    split
    · rfl
    · rw [hold]; rfl

theorem prologueKind_addPrologue {c : Config} {k kind : PrologueKind} {e : Evidence}
    (h : (e.addPrologue c k).prologueKind = some kind) : k = kind ∨ e.prologueKind = some kind := by
  unfold addPrologue at h
  split at h
  · cases h
    exact Or.inl rfl
  · split at h
    · cases h
      exact Or.inl rfl
    · exact Or.inr h

end Evidence

namespace Candidate

/-- The evidence after prologues, taken in order. -/
def withPrologues (c : Config) (ps : List Prologue) (e : Evidence) : Evidence :=
  ps.foldl (fun e p => e.addPrologue c p.kind) e

/-- The evidence after edges, taken in order. -/
def withEdges (es : List CallSite) (e : Evidence) : Evidence :=
  es.foldl (fun e x => e.addEdge x.kind x.source) e

/-- The evidence for one address: the prologues there and the edges to it. -/
def evidenceAt (c : Config) (ps : List Prologue) (es : List CallSite) (a : Int) : Evidence :=
  withEdges (es.filter (·.target = some a)) (withPrologues c (ps.filter (·.address = a)) {})

/-- A prologue stands at the address or an edge leads to it. -/
def SpokenFor (ps : List Prologue) (es : List CallSite) (a : Int) : Prop :=
  (∃ p ∈ ps, p.address = a) ∨ ∃ e ∈ es, e.target = some a

/-! ## The map of evidence -/

theorem gatherPrologue_eq_tally (c : Config) : gatherPrologue c =
    AddressMap.tally (fun p => some p.address) {} (fun e p => e.addPrologue c p.kind) := rfl

theorem gatherEdge_eq_tally : gatherEdge =
    AddressMap.tally (·.target) {} (fun e x => e.addEdge x.kind x.source) := by
  funext m x
  cases htarget : x.target with
  | none => simp only [gatherEdge, AddressMap.tally, htarget]
  | some t => simp only [gatherEdge, AddressMap.tally, htarget]

theorem gatherPrologues_ascending (c : Config) (ps : List Prologue) :
    (ps.foldl (gatherPrologue c) ([] : AddressMap Evidence)).Ascending := by
  rw [gatherPrologue_eq_tally]
  exact AddressMap.Ascending.tallies List.Pairwise.nil ps

theorem gather_ascending (c : Config) (ps : List Prologue) (es : List CallSite) :
    (gather c ps es).Ascending := by
  rw [gather, gatherEdge_eq_tally]
  exact (gatherPrologues_ascending c ps).tallies es

theorem filter_ne_nil_iff {α : Type} {p : α → Prop} [DecidablePred p] {xs : List α} :
    xs.filter (p ·) ≠ [] ↔ ∃ x ∈ xs, p x := by
  simp [List.filter_eq_nil_iff]

theorem get?_gatherPrologues (c : Config) (ps : List Prologue) (a : Int) :
    (ps.foldl (gatherPrologue c) ([] : AddressMap Evidence)).get? a =
      if ps.filter (·.address = a) = [] then none
      else some (withPrologues c (ps.filter (·.address = a)) {}) := by
  rw [gatherPrologue_eq_tally, AddressMap.get?_tallies List.Pairwise.nil]
  simp only [Option.some.injEq]
  rfl

/-- The map holds, at the addresses that are spoken for, the evidence for them. -/
theorem get?_gather {c : Config} {ps : List Prologue} {es : List CallSite} {a : Int}
    {e : Evidence} :
    (gather c ps es).get? a = some e ↔ SpokenFor ps es a ∧ e = evidenceAt c ps es a := by
  have hspoken : SpokenFor ps es a ↔
      ps.filter (·.address = a) ≠ [] ∨ es.filter (·.target = some a) ≠ [] := by
    rw [SpokenFor, filter_ne_nil_iff, filter_ne_nil_iff]
  rw [hspoken, gather, gatherEdge_eq_tally,
    AddressMap.get?_tallies (gatherPrologues_ascending c ps), get?_gatherPrologues, evidenceAt,
    withEdges]
  by_cases he : es.filter (·.target = some a) = []
  · rw [if_pos he, he, List.foldl_nil]
    by_cases hp : ps.filter (·.address = a) = []
    · rw [if_pos hp]
      simp [hp]
    · rw [if_neg hp, Option.some.injEq, and_iff_right (Or.inl hp), eq_comm]
  · rw [if_neg he, Option.some.injEq, and_iff_right (Or.inr he), eq_comm]
    by_cases hp : ps.filter (·.address = a) = []
    · rw [if_pos hp, hp]
      rfl
    · rw [if_neg hp]
      rfl

/-! ## The candidates -/

theorem mem_merge {c : Config} {ps : List Prologue} {es : List CallSite} {x : Candidate} :
    x ∈ merge c ps es ↔
      SpokenFor ps es x.address ∧ x = (evidenceAt c ps es x.address).candidate c x.address := by
  simp only [merge, List.mem_map]
  constructor
  · rintro ⟨⟨a, e⟩, hmem, rfl⟩
    rw [AddressMap.mem_iff_get? (gather_ascending c ps es), get?_gather] at hmem
    obtain ⟨hspoken, rfl⟩ := hmem
    exact ⟨hspoken, rfl⟩
  · rintro ⟨hspoken, hx⟩
    refine ⟨(x.address, evidenceAt c ps es x.address), ?_, hx.symm⟩
    rw [AddressMap.mem_iff_get? (gather_ascending c ps es), get?_gather]
    exact ⟨hspoken, rfl⟩

theorem merge_ascending (c : Config) (ps : List Prologue) (es : List CallSite) :
    (merge c ps es).Pairwise fun x y => x.address < y.address := by
  rw [merge, List.pairwise_map]
  exact gather_ascending c ps es

theorem merge_unique {c : Config} {ps : List Prologue} {es : List CallSite} {x y : Candidate}
    (hx : x ∈ merge c ps es) (hy : y ∈ merge c ps es) (h : x.address = y.address) : x = y := by
  have hx' := (mem_merge.mp hx).2
  rw [h] at hx'
  exact hx'.trans (mem_merge.mp hy).2.symm

theorem mem_addresses_merge {c : Config} {ps : List Prologue} {es : List CallSite} {a : Int} :
    a ∈ (merge c ps es).map (·.address) ↔ SpokenFor ps es a := by
  rw [List.mem_map]
  constructor
  · rintro ⟨x, hx, rfl⟩
    exact (mem_merge.mp hx).1
  · intro h
    exact ⟨(evidenceAt c ps es a).candidate c a, mem_merge.mpr ⟨h, rfl⟩, rfl⟩

/-! ## The evidence for one address -/

theorem sources_withPrologues (c : Config) (ps : List Prologue) (kind : EdgeKind) (e : Evidence) :
    (withPrologues c ps e).sources kind = e.sources kind := by
  induction ps generalizing e with
  | nil => rfl
  | cons p ps ih =>
    rw [withPrologues, List.foldl_cons, ← withPrologues, ih, Evidence.sources_addPrologue]

theorem mem_sources_withEdges {kind : EdgeKind} {es : List CallSite} {e : Evidence} {s : Int} :
    s ∈ (withEdges es e).sources kind ↔
      s ∈ e.sources kind ∨ ∃ x ∈ es, x.kind = kind ∧ x.source = s := by
  induction es generalizing e with
  | nil => simp [withEdges]
  | cons x es ih =>
    rw [withEdges, List.foldl_cons, ← withEdges, ih, Evidence.sources_addEdge]
    by_cases hkind : x.kind = kind
    · simp only [hkind, if_true, mem_insertAddress, List.exists_mem_cons_iff, true_and]
      constructor
      · rintro ((rfl | hs) | hs)
        · exact Or.inr (Or.inl rfl)
        · exact Or.inl hs
        · exact Or.inr (Or.inr hs)
      · rintro (hs | rfl | hs)
        · exact Or.inl (Or.inr hs)
        · exact Or.inl (Or.inl rfl)
        · exact Or.inr hs
    · simp [hkind]

/-- The sources for an address are those of the edges of the kind that lead to it. -/
theorem mem_sources {c : Config} {ps : List Prologue} {es : List CallSite} {a s : Int}
    (kind : EdgeKind) :
    s ∈ (evidenceAt c ps es a).sources kind ↔
      ∃ x ∈ es, x.kind = kind ∧ x.target = some a ∧ x.source = s := by
  have hnone : s ∉ ({} : Evidence).sources kind := by cases kind <;> exact List.not_mem_nil
  rw [evidenceAt, mem_sources_withEdges, sources_withPrologues]
  simp only [hnone, false_or, List.mem_filter, decide_eq_true_eq]
  constructor
  · rintro ⟨x, ⟨hx, htarget⟩, hkind, hsource⟩
    exact ⟨x, hx, hkind, htarget, hsource⟩
  · rintro ⟨x, hx, hkind, htarget, hsource⟩
    exact ⟨x, ⟨hx, htarget⟩, hkind, hsource⟩

theorem sources_withEdges_ascending {kind : EdgeKind} {e : Evidence} (es : List CallSite)
    (h : (e.sources kind).Pairwise (· < ·)) :
    ((withEdges es e).sources kind).Pairwise (· < ·) := by
  induction es generalizing e with
  | nil => exact h
  | cons x es ih =>
    rw [withEdges, List.foldl_cons, ← withEdges]
    refine ih ?_
    rw [Evidence.sources_addEdge]
    split
    · exact insertAddress_ascending h _
    · exact h

theorem sources_ascending (c : Config) (ps : List Prologue) (es : List CallSite) (a : Int)
    (kind : EdgeKind) : ((evidenceAt c ps es a).sources kind).Pairwise (· < ·) := by
  refine sources_withEdges_ascending _ ?_
  rw [sources_withPrologues]
  cases kind <;> exact List.Pairwise.nil

theorem prologueKind_withEdges (es : List CallSite) (e : Evidence) :
    (withEdges es e).prologueKind = e.prologueKind := by
  induction es generalizing e with
  | nil => rfl
  | cons x es ih =>
    rw [withEdges, List.foldl_cons, ← withEdges, ih, Evidence.prologueKind_addEdge]

theorem prologueKind_withPrologues_isSome (c : Config) (ps : List Prologue) (e : Evidence) :
    (withPrologues c ps e).prologueKind.isSome ↔ e.prologueKind.isSome ∨ ps ≠ [] := by
  induction ps generalizing e with
  | nil => simp [withPrologues]
  | cons p ps ih =>
    rw [withPrologues, List.foldl_cons, ← withPrologues, ih]
    simp [Evidence.prologueKind_addPrologue_isSome]

/-- The kind that is kept is the kind of one of the prologues. -/
theorem prologueKind_withPrologues_mem {c : Config} {ps : List Prologue} {e : Evidence}
    {kind : PrologueKind} (h : (withPrologues c ps e).prologueKind = some kind) :
    e.prologueKind = some kind ∨ ∃ p ∈ ps, p.kind = kind := by
  induction ps generalizing e with
  | nil => exact Or.inl h
  | cons p ps ih =>
    rcases ih h with hfirst | ⟨q, hq, hkind⟩
    · rcases Evidence.prologueKind_addPrologue hfirst with hown | hold
      · exact Or.inr ⟨p, List.mem_cons_self, hown⟩
      · exact Or.inl hold
    · exact Or.inr ⟨q, List.mem_cons_of_mem p hq, hkind⟩

/-- An address has a prologue kind exactly if a prologue stands there. -/
theorem prologueKind_isSome_iff {c : Config} {ps : List Prologue} {es : List CallSite} {a : Int} :
    (evidenceAt c ps es a).prologueKind.isSome ↔ ∃ p ∈ ps, p.address = a := by
  rw [evidenceAt, prologueKind_withEdges, prologueKind_withPrologues_isSome, filter_ne_nil_iff]
  simp

/-! ## Restriction to a set of addresses -/

section Restriction

variable {c : Config} {ps : List Prologue} {es : List CallSite} {inside : Int → Bool}

/-- An address of the set keeps all its evidence when edges out of the set are dropped. -/
theorem evidenceAt_filter {a : Int} (ha : inside a) :
    evidenceAt c ps (es.filter (·.target.any inside)) a = evidenceAt c ps es a := by
  unfold evidenceAt
  rw [List.filter_filter]
  congr 1
  refine List.filter_congr fun e _ => ?_
  by_cases htarget : e.target = some a
  · simp [htarget, ha]
  · simp [htarget]

theorem spokenFor_filter (hps : ∀ p ∈ ps, inside p.address) {a : Int} :
    SpokenFor ps (es.filter (·.target.any inside)) a ↔ SpokenFor ps es a ∧ inside a := by
  constructor
  · rintro (⟨p, hp, rfl⟩ | ⟨e, he, ha⟩)
    · exact ⟨Or.inl ⟨p, hp, rfl⟩, hps p hp⟩
    · obtain ⟨hmem, hinside⟩ := List.mem_filter.mp he
      rw [ha] at hinside
      exact ⟨Or.inr ⟨e, hmem, ha⟩, hinside⟩
  · rintro ⟨hp | ⟨e, he, ha⟩, hinside⟩
    · exact Or.inl hp
    · refine Or.inr ⟨e, List.mem_filter.mpr ⟨he, ?_⟩, ha⟩
      rw [ha]
      exact hinside

/-- Where all prologues lie in a set of addresses, dropping the edges out of the set before the
merge is the same as dropping the candidates outside it afterwards. -/
theorem merge_filter (hps : ∀ p ∈ ps, inside p.address) :
    merge c ps (es.filter (·.target.any inside)) =
      (merge c ps es).filter (fun x => inside x.address) := by
  have : Std.Irrefl fun x y : Candidate => x.address < y.address := ⟨fun x => Int.lt_irrefl _⟩
  have : Std.Antisymm fun x y : Candidate => x.address < y.address :=
    ⟨fun x y hxy hyx => absurd hxy (Int.not_lt.mpr (Int.le_of_lt hyx))⟩
  refine List.Pairwise.eq_of_mem_iff (merge_ascending c ps _)
    ((merge_ascending c ps es).filter _) fun x => ?_
  rw [List.mem_filter, mem_merge, mem_merge, spokenFor_filter hps]
  constructor
  · rintro ⟨⟨hspoken, hinside⟩, hx⟩
    rw [evidenceAt_filter hinside] at hx
    exact ⟨⟨hspoken, hx⟩, hinside⟩
  · rintro ⟨⟨hspoken, hx⟩, hinside⟩
    refine ⟨⟨hspoken, hinside⟩, ?_⟩
    rw [evidenceAt_filter hinside]
    exact hx

end Restriction

end Candidate
end EntryScan
