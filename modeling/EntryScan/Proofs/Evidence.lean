import EntryScan.Proofs.Analysis
import Mathlib.Data.List.MinMax

/-!
# EntryScan.Proofs.Evidence

What a merge makes of prologues and edges, said of these alone and not of the passes over them.

* `Candidate.prologueKind_evidenceAt`: of the prologues at an address the first of the most trusted
  is kept.
* `Evidence.rated`: the verdict, told by what speaks for the address.
* `Evidence.Within.confidence_le`: where trust and high confidence go together, more evidence gives
  no less confidence.

`Toolbox.merge_exact` says what a merge returns for all prologues and edges, and
`Toolbox.merge_mono` that more of them never weaken a candidate.
-/

namespace EntryScan

variable {c : Config} {ps ps' : List Prologue} {es es' : List CallSite} {a : Int}

/-! ## The kind that is kept -/

/-- The kinds of the prologues at an address, in the order of the prologues. -/
def Prologue.kindsAt (ps : List Prologue) (a : Int) : List PrologueKind :=
  (ps.filter (·.address = a)).map (·.kind)

/-- No kind of the list is trusted more, and none that is trusted as much stands before it. -/
def PrologueKind.MostTrusted (c : Config) (kinds : List PrologueKind) (k : PrologueKind) : Prop :=
  k ∈ kinds ∧ (∀ j ∈ kinds, j.trust c ≤ k.trust c) ∧
    ∀ j ∈ kinds, k.trust c ≤ j.trust c → kinds.idxOf k ≤ kinds.idxOf j

instance (c : Config) (kinds : List PrologueKind) (k : PrologueKind) :
    Decidable (k.MostTrusted c kinds) :=
  inferInstanceAs (Decidable (_ ∧ _ ∧ _))

theorem Prologue.mem_kindsAt {k : PrologueKind} :
    k ∈ kindsAt ps a ↔ ∃ p ∈ ps, p.address = a ∧ p.kind = k := by
  simp [kindsAt, and_assoc]

theorem Prologue.kindsAt_subset (h : ps ⊆ ps') : kindsAt ps a ⊆ kindsAt ps' a := by
  intro k hk
  obtain ⟨p, hp, hplace⟩ := mem_kindsAt.mp hk
  exact mem_kindsAt.mpr ⟨p, h hp, hplace⟩

namespace Candidate

theorem withPrologues_concat (c : Config) (ps : List Prologue) (p : Prologue) (e : Evidence) :
    withPrologues c (ps ++ [p]) e = (withPrologues c ps e).addPrologue c p.kind := by
  simp [withPrologues]

/-- By induction on the prologues from the last one on: what is kept of those before it gives way to
a kind that is trusted more, and to no other. -/
theorem prologueKind_withPrologues (c : Config) (ps : List Prologue) :
    (withPrologues c ps {}).prologueKind = (ps.map (·.kind)).argmax (·.trust c) := by
  induction ps using List.reverseRecOn with
  | nil => rfl
  | append_singleton ps p ih =>
    rw [withPrologues_concat, List.map_append, List.map_singleton, List.argmax_concat, ← ih,
      Evidence.addPrologue]
    cases hkept : (withPrologues c ps {}).prologueKind with
    | none => rfl
    | some old =>
      by_cases hmore : old.trust c < p.kind.trust c
      · simp [hmore]
      · simp [hmore, hkept]

theorem prologueKind_evidenceAt (c : Config) (ps : List Prologue) (es : List CallSite) (a : Int) :
    (evidenceAt c ps es a).prologueKind = (Prologue.kindsAt ps a).argmax (·.trust c) := by
  rw [evidenceAt, prologueKind_withEdges, prologueKind_withPrologues, Prologue.kindsAt]

theorem prologueKind_eq_some_iff {k : PrologueKind} :
    (evidenceAt c ps es a).prologueKind = some k ↔
      PrologueKind.MostTrusted c (Prologue.kindsAt ps a) k := by
  rw [prologueKind_evidenceAt]
  exact List.argmax_eq_some_iff

end Candidate

/-! ## The verdict -/

/-- The candidate shows this evidence and this confidence. -/
def Candidate.Rated (x : Candidate) (d : DetectionKind) (r : Confidence) : Prop :=
  x.detection = d ∧ x.confidence = r

/-- An edge of the kind leads to the address. -/
def CallSite.Leads (es : List CallSite) (kind : EdgeKind) (a : Int) : Prop :=
  ∃ e ∈ es, e.kind = kind ∧ e.target = some a

theorem PrologueKind.mem_highTrust {k : PrologueKind} :
    k.name ∈ ({} : Config).highTrust ↔ k = .classic ∨ k = .stpFramePair := by
  cases k <;> decide

namespace Evidence

/-- A kind is kept that alone gives high confidence. -/
def Trusted (c : Config) (e : Evidence) : Prop :=
  ∃ k, e.prologueKind = some k ∧ k.name ∈ c.highTrust

theorem trusted_default {e : Evidence} :
    e.Trusted {} ↔ e.prologueKind = some .classic ∨ e.prologueKind = some .stpFramePair := by
  cases hkept : e.prologueKind with
  | none => simp [Trusted, hkept]
  | some k =>
    simp only [Trusted, hkept, Option.some.injEq, exists_eq_left']
    exact PrologueKind.mem_highTrust

theorem rated (c : Config) (a : Int) (e : Evidence) :
    let x := e.candidate c a
    let led : Prop := e.sources .call ≠ [] ∨ e.sources .jump ≠ []
    (x.Rated .both .high ↔ e.prologueKind ≠ none ∧ led) ∧
    (x.Rated .prologueOnly .high ↔ e.prologueKind ≠ none ∧ ¬ led ∧ e.Trusted c) ∧
    (x.Rated .prologueOnly .medium ↔ e.prologueKind ≠ none ∧ ¬ led ∧ ¬ e.Trusted c) ∧
    (x.Rated .callTarget .medium ↔ e.prologueKind = none ∧ e.sources .call ≠ []) ∧
    (x.Rated .jumpTarget .low ↔ e.prologueKind = none ∧ ¬ e.sources .call ≠ []) := by
  obtain ⟨kept, called, jumped⟩ := e
  cases kept with
  | none => cases called <;> simp [candidate, Candidate.Rated, sources]
  | some k =>
    by_cases hhigh : k.name ∈ c.highTrust
    · cases called <;> cases jumped <;>
        simp [candidate, Candidate.Rated, sources, PrologueKind.confidence, Trusted, hhigh]
    · cases called <;> cases jumped <;>
        simp [candidate, Candidate.Rated, sources, PrologueKind.confidence, Trusted, hhigh]

end Evidence

namespace Candidate

theorem sources_ne_nil_iff {kind : EdgeKind} :
    (evidenceAt c ps es a).sources kind ≠ [] ↔ CallSite.Leads es kind a := by
  constructor
  · intro hne
    obtain ⟨s, hs⟩ := List.exists_mem_of_ne_nil _ hne
    obtain ⟨e, he, hkind, htarget, -⟩ := (mem_sources kind).mp hs
    exact ⟨e, he, hkind, htarget⟩
  · rintro ⟨e, he, hkind, htarget⟩
    exact List.ne_nil_of_mem ((mem_sources kind).mpr ⟨e, he, hkind, htarget, rfl⟩)

theorem prologueKind_eq_none_iff :
    (evidenceAt c ps es a).prologueKind = none ↔ ¬ ∃ p ∈ ps, p.address = a := by
  rw [← @prologueKind_isSome_iff c ps es a, Option.not_isSome_iff_eq_none]

/-- An address that is spoken for by no prologue and no call is spoken for by a jump. -/
theorem SpokenFor.leads_jump (h : SpokenFor ps es a) (hprologue : ¬ ∃ p ∈ ps, p.address = a)
    (hcall : ¬ CallSite.Leads es .call a) : CallSite.Leads es .jump a := by
  rcases h with hp | ⟨e, he, htarget⟩
  · exact absurd hp hprologue
  · cases hkind : e.kind with
    | call => exact absurd ⟨e, he, hkind, htarget⟩ hcall
    | jump => exact ⟨e, he, hkind, htarget⟩

theorem merge_resolved (c : Config) (ps : List Prologue) (es : List CallSite) :
    merge c ps (es.filter (·.target.isSome)) = merge c ps es := by
  have hskip : (fun (m : AddressMap Evidence) (e : CallSite) =>
      if e.target.isSome = true then gatherEdge m e else m) = gatherEdge := by
    funext m e
    cases htarget : e.target <;> simp [gatherEdge, htarget]
  rw [merge, merge, gather, gather, List.foldl_filter, hskip]

end Candidate

/-! ## What a merge returns -/

/-- **What a merge returns.** For all prologues and edges there is one candidate at each address at
which a prologue stands or to which an edge leads, in ascending order. Its sources are those of the
calls and of the jumps that lead there, each once. Of the kinds of the prologues there it has the
first of the most trusted. It is rated by what speaks for it: a prologue and an edge, a prologue
alone, a call, or jumps alone. Edges without a target make no difference. -/
theorem Toolbox.merge_exact (ps : List Prologue) (es : List CallSite) :
    ∃ cs, (merge {} ps es).outcome.1 = .ok cs ∧
      cs.Pairwise (fun x y => x.address < y.address) ∧
      (∀ a, a ∈ cs.map (·.address) ↔
        (∃ p ∈ ps, p.address = a) ∨ ∃ e ∈ es, e.target = some a) ∧
      (∀ x ∈ cs,
        let prologue : Prop := ∃ p ∈ ps, p.address = x.address
        let called : Prop := CallSite.Leads es .call x.address
        let jumped : Prop := CallSite.Leads es .jump x.address
        let trusted : Prop := x.prologueKind = some .classic ∨ x.prologueKind = some .stpFramePair
        (x.calledFrom.Pairwise (· < ·) ∧ ∀ s, s ∈ x.calledFrom ↔
          ∃ e ∈ es, e.kind = .call ∧ e.target = some x.address ∧ e.source = s) ∧
        (x.jumpedFrom.Pairwise (· < ·) ∧ ∀ s, s ∈ x.jumpedFrom ↔
          ∃ e ∈ es, e.kind = .jump ∧ e.target = some x.address ∧ e.source = s) ∧
        (x.prologueKind = none ↔ ¬ prologue) ∧
        (∀ k, x.prologueKind = some k ↔
          PrologueKind.MostTrusted {} (Prologue.kindsAt ps x.address) k) ∧
        (x.Rated .both .high ↔ prologue ∧ (called ∨ jumped)) ∧
        (x.Rated .prologueOnly .high ↔ prologue ∧ ¬ (called ∨ jumped) ∧ trusted) ∧
        (x.Rated .prologueOnly .medium ↔ prologue ∧ ¬ (called ∨ jumped) ∧ ¬ trusted) ∧
        (x.Rated .callTarget .medium ↔ ¬ prologue ∧ called) ∧
        (x.Rated .jumpTarget .low ↔ ¬ prologue ∧ ¬ called ∧ jumped)) ∧
      merge {} ps (es.filter (·.target.isSome)) = merge {} ps es := by
  refine ⟨Candidate.merge {} ps es, (merge_returns {} ps es).outcome,
    Candidate.merge_ascending _ _ _, fun a => Candidate.mem_addresses_merge, ?_, ?_⟩
  · intro x hx prologue called jumped trusted
    obtain ⟨hspoken, hevidence⟩ := Candidate.mem_merge.mp hx
    have hkept : x.prologueKind = (Candidate.evidenceAt {} ps es x.address).prologueKind :=
      congrArg Candidate.prologueKind hevidence
    -- the verdict on the evidence, carried over to the prologues and edges that gave it
    have hrated := Evidence.rated {} x.address (Candidate.evidenceAt {} ps es x.address)
    rw [← hevidence] at hrated
    simp only [Evidence.trusted_default, ← hkept, Candidate.sources_ne_nil_iff] at hrated
    have hnone : x.prologueKind = none ↔ ¬ prologue := by
      rw [hkept, Candidate.prologueKind_eq_none_iff]
    have hsome : x.prologueKind ≠ none ↔ prologue := by rw [Ne, hnone, not_not]
    rw [hnone, hsome] at hrated
    obtain ⟨hboth, hhigh, hmedium, hcall, hjump⟩ := hrated
    refine ⟨⟨?_, ?_⟩, ⟨?_, ?_⟩, hnone, ?_, hboth, hhigh, hmedium, hcall, ?_⟩
    · rw [hevidence]
      exact Candidate.sources_ascending _ _ _ _ .call
    · intro s
      rw [hevidence]
      exact Candidate.mem_sources .call
    · rw [hevidence]
      exact Candidate.sources_ascending _ _ _ _ .jump
    · intro s
      rw [hevidence]
      exact Candidate.mem_sources .jump
    · intro k
      rw [hkept, Candidate.prologueKind_eq_some_iff]
    · rw [hjump]
      constructor
      · rintro ⟨hprologue, hcalled⟩
        exact ⟨hprologue, hcalled, hspoken.leads_jump hprologue hcalled⟩
      · rintro ⟨hprologue, hcalled, -⟩
        exact ⟨hprologue, hcalled⟩
  · unfold merge
    rw [Candidate.merge_resolved]

/-- Three kinds at one address, of which the last two are trusted alike; a jump from below zero, a
call to an address with a weak prologue, and an edge that leads nowhere. -/
theorem Toolbox.merge_exact_tie :
    let edge (kind : EdgeKind) (s : Int) (t : Option Int) : CallSite :=
      ⟨s, t, kind, .pcRelative, .high, "", false⟩
    let ps : List Prologue := [⟨0x100, .pushOnly, ""⟩, ⟨0x40, .subSp, ""⟩,
      ⟨0x100, .stpFramePair, ""⟩, ⟨0x100, .classic, ""⟩]
    let es := [edge .jump (-8) (some 0x180), edge .call 0x104 none, edge .call 0x104 (some 0x40)]
    ∃ cs, (merge {} ps es).outcome.1 = .ok cs ∧
      (∃ x ∈ cs, x.address = 0x100 ∧ x.prologueKind = some .stpFramePair ∧
        x.Rated .prologueOnly .high) ∧
      (∃ x ∈ cs, x.address = 0x40 ∧ 0x104 ∈ x.calledFrom ∧ x.Rated .both .high) ∧
      ∃ x ∈ cs, x.address = 0x180 ∧ -8 ∈ x.jumpedFrom ∧ x.Rated .jumpTarget .low := by
  intro edge ps es
  obtain ⟨cs, hcs, _, haddresses, hall, _⟩ := merge_exact ps es
  have hno (kind : EdgeKind) (a : Int) (h : ∀ e ∈ es, e.kind = kind → e.target ≠ some a) :
      ¬ CallSite.Leads es kind a := by
    rintro ⟨e, he, hkind, htarget⟩
    exact h e he hkind htarget
  refine ⟨cs, hcs, ?_, ?_, ?_⟩
  · obtain ⟨x, hx, ha⟩ := List.mem_map.mp ((haddresses 0x100).mpr (by decide))
    obtain ⟨_, _, _, hkind, _, hhigh, _⟩ := hall x hx
    rw [ha] at hkind hhigh
    have hkept : x.prologueKind = some .stpFramePair := (hkind _).mpr (by decide)
    refine ⟨x, hx, ha, hkept, hhigh.mpr ⟨by decide, ?_, Or.inr hkept⟩⟩
    exact not_or.mpr ⟨hno .call _ (by decide), hno .jump _ (by decide)⟩
  · obtain ⟨x, hx, ha⟩ := List.mem_map.mp ((haddresses 0x40).mpr (by decide))
    obtain ⟨⟨_, hcalled⟩, _, _, _, hboth, _⟩ := hall x hx
    rw [ha] at hcalled hboth
    refine ⟨x, hx, ha, (hcalled _).mpr (by decide), hboth.mpr ⟨by decide, Or.inl ?_⟩⟩
    exact ⟨edge .call 0x104 (some 0x40), by decide, rfl, rfl⟩
  · obtain ⟨x, hx, ha⟩ := List.mem_map.mp ((haddresses 0x180).mpr (by decide))
    obtain ⟨_, ⟨_, hjumped⟩, _, _, _, _, _, _, hlow⟩ := hall x hx
    rw [ha] at hjumped hlow
    refine ⟨x, hx, ha, (hjumped _).mpr (by decide), hlow.mpr ⟨by decide, ?_, ?_⟩⟩
    · exact hno .call _ (by decide)
    · exact ⟨edge .jump (-8) (some 0x180), by decide, rfl, rfl⟩

/-! ## More evidence -/

/-- A kind that is trusted as much as one that alone gives high confidence does so too. -/
def Config.TrustAgrees (c : Config) : Prop :=
  ∀ j k : PrologueKind, j.trust c ≤ k.trust c → j.name ∈ c.highTrust → k.name ∈ c.highTrust

theorem Config.trustAgrees_default : ({} : Config).TrustAgrees := by
  intro j k hle hj
  rw [PrologueKind.mem_highTrust] at hj ⊢
  have htop : (3 : Int) ≤ k.trust {} := by
    rcases hj with rfl | rfl
    · exact hle
    · exact hle
  revert htop
  cases k <;> decide

theorem PrologueKind.medium_le_confidence (c : Config) (k : PrologueKind) :
    Confidence.medium.rank ≤ (k.confidence c).rank := by
  unfold confidence
  split <;> decide

theorem PrologueKind.confidence_le (hc : c.TrustAgrees) {j k : PrologueKind}
    (h : j.trust c ≤ k.trust c) : (j.confidence c).rank ≤ (k.confidence c).rank := by
  by_cases hj : j.name ∈ c.highTrust
  · simp [confidence, hj, hc j k h hj]
  · by_cases hk : k.name ∈ c.highTrust <;> simp [confidence, hj, hk, Confidence.rank]

namespace Evidence

/-- All sources are among those of the other evidence, which keeps a kind that is trusted no less. -/
structure Within (c : Config) (e e' : Evidence) : Prop where
  sources : ∀ kind, e.sources kind ⊆ e'.sources kind
  trust : ∀ k, e.prologueKind = some k →
    ∃ k', e'.prologueKind = some k' ∧ k.trust c ≤ k'.trust c

variable {e e' : Evidence}

theorem confidence_of_some {k : PrologueKind} (h : e.prologueKind = some k) :
    (e.candidate c a).confidence =
      if e.sources .call = [] ∧ e.sources .jump = [] then k.confidence c else .high := by
  obtain ⟨kept, called, jumped⟩ := e
  cases h
  cases called <;> cases jumped <;> simp [candidate, sources]

theorem confidence_of_none (h : e.prologueKind = none) :
    (e.candidate c a).confidence = if e.sources .call = [] then .low else .medium := by
  obtain ⟨kept, called, jumped⟩ := e
  cases h
  cases called <;> simp [candidate, sources]

theorem Within.sources_eq_nil (h : Within c e e') {kind : EdgeKind} (hnil : e'.sources kind = []) :
    e.sources kind = [] := by
  have hsub := h.sources kind
  rw [hnil] at hsub
  exact List.subset_nil.mp hsub

/-- The cases follow what the smaller evidence has: a prologue, a call, or jumps alone. -/
theorem Within.confidence_le (hc : c.TrustAgrees) (h : Within c e e') :
    (e.candidate c a).confidence.rank ≤ (e'.candidate c a).confidence.rank := by
  have hmost (r : Confidence) : r.rank ≤ Confidence.high.rank := by cases r <;> decide
  cases hkept : e.prologueKind with
  | some k =>
    obtain ⟨k', hkept', hle⟩ := h.trust k hkept
    rw [confidence_of_some hkept, confidence_of_some hkept']
    by_cases hnone : e'.sources .call = [] ∧ e'.sources .jump = []
    · rw [if_pos hnone, if_pos ⟨h.sources_eq_nil hnone.1, h.sources_eq_nil hnone.2⟩]
      exact PrologueKind.confidence_le hc hle
    · rw [if_neg hnone]
      exact hmost _
  | none =>
    rw [confidence_of_none hkept]
    cases hkept' : e'.prologueKind with
    | some k' =>
      have hmedium : (if e.sources .call = [] then Confidence.low else .medium).rank ≤
          Confidence.medium.rank := by
        split <;> decide
      rw [confidence_of_some hkept']
      refine Nat.le_trans hmedium ?_
      split
      · exact PrologueKind.medium_le_confidence c k'
      · exact hmost _
    | none =>
      rw [confidence_of_none hkept']
      by_cases hcalled : e'.sources .call = []
      · rw [if_pos hcalled, if_pos (h.sources_eq_nil hcalled)]
      · rw [if_neg hcalled]
        split <;> decide

end Evidence

namespace Candidate

theorem SpokenFor.mono (hps : ps ⊆ ps') (hes : es ⊆ es') (h : SpokenFor ps es a) :
    SpokenFor ps' es' a := by
  rcases h with ⟨p, hp, ha⟩ | ⟨e, he, ha⟩
  · exact Or.inl ⟨p, hps hp, ha⟩
  · exact Or.inr ⟨e, hes he, ha⟩

theorem evidenceAt_within (c : Config) (hps : ps ⊆ ps') (hes : es ⊆ es') (a : Int) :
    Evidence.Within c (evidenceAt c ps es a) (evidenceAt c ps' es' a) := by
  constructor
  · intro kind s hs
    obtain ⟨e, he, hedge⟩ := (mem_sources kind).mp hs
    exact (mem_sources kind).mpr ⟨e, hes he, hedge⟩
  · intro k hk
    rw [prologueKind_evidenceAt] at hk
    have hmem : k ∈ Prologue.kindsAt ps' a := Prologue.kindsAt_subset hps (List.argmax_mem hk)
    rw [prologueKind_evidenceAt]
    cases hkept : (Prologue.kindsAt ps' a).argmax (·.trust c) with
    | none => exact absurd (List.argmax_eq_none.mp hkept) (List.ne_nil_of_mem hmem)
    | some k' => exact ⟨k', rfl, List.le_of_mem_argmax hmem hkept⟩

end Candidate

/-- **More evidence never weakens a candidate.** Let every prologue and every edge of one merge occur
in another. Then the other has a candidate at every address of the first, with no less confidence
and with all the sources. Where the first has a prologue kind, the other has one that is trusted no
less. -/
theorem Toolbox.merge_mono {ps ps' : List Prologue} {es es' : List CallSite} (hps : ps ⊆ ps')
    (hes : es ⊆ es') :
    ∃ cs cs', (merge {} ps es).outcome.1 = .ok cs ∧ (merge {} ps' es').outcome.1 = .ok cs' ∧
      ∀ x ∈ cs, ∃ y ∈ cs', y.address = x.address ∧ x.confidence.rank ≤ y.confidence.rank ∧
        x.calledFrom ⊆ y.calledFrom ∧ x.jumpedFrom ⊆ y.jumpedFrom ∧
        ∀ k, x.prologueKind = some k →
          ∃ k', y.prologueKind = some k' ∧ k.trust {} ≤ k'.trust {} := by
  refine ⟨_, _, (merge_returns {} ps es).outcome, (merge_returns {} ps' es').outcome, ?_⟩
  intro x hx
  obtain ⟨hspoken, hevidence⟩ := Candidate.mem_merge.mp hx
  have hwithin := Candidate.evidenceAt_within {} hps hes x.address
  refine ⟨(Candidate.evidenceAt {} ps' es' x.address).candidate {} x.address,
    Candidate.mem_merge.mpr ⟨hspoken.mono hps hes, rfl⟩, rfl, ?_⟩
  -- the candidate is its evidence and its address, and nothing more has to be known of the address
  generalize x.address = a at hevidence hwithin
  subst hevidence
  exact ⟨hwithin.confidence_le Config.trustAgrees_default, hwithin.sources .call,
    hwithin.sources .jump, hwithin.trust⟩

/-- A weak prologue that a strong one joins, and a jump target that a call joins. In the second merge
the weak prologue comes last and the jump comes twice. -/
theorem Toolbox.merge_mono_jump_target :
    let edge (kind : EdgeKind) (s t : Int) : CallSite :=
      ⟨s, some t, kind, .pcRelative, .high, "", false⟩
    let ps : List Prologue := [⟨0x40, .subSp, "sub sp, sp, #0x10"⟩]
    let ps' : List Prologue := [⟨0x40, .classic, "push rbp; mov rbp, rsp"⟩,
      ⟨0x40, .subSp, "sub sp, sp, #0x10"⟩]
    let es := [edge .jump 0x20 0x80]
    let es' := [edge .jump 0x20 0x80, edge .call 0x60 0x80, edge .jump 0x20 0x80]
    (ps ⊆ ps' ∧ es ⊆ es') ∧
    ∃ cs', (merge {} ps' es').outcome.1 = .ok cs' ∧
      (∃ y ∈ cs', y.address = 0x40 ∧ ∃ k', y.prologueKind = some k' ∧ 1 ≤ k'.trust {}) ∧
      ∃ y ∈ cs', y.address = 0x80 ∧ 1 ≤ y.confidence.rank ∧ [0x20] ⊆ y.jumpedFrom := by
  intro edge ps ps' es es'
  have hps : ps ⊆ ps' := by decide
  have hes : es ⊆ es' := by decide
  obtain ⟨cs, cs', hcs, hcs', hall⟩ := merge_mono hps hes
  have hmerge : cs = [⟨0x40, .prologueOnly, .medium, some .subSp, [], []⟩,
      ⟨0x80, .jumpTarget, .low, none, [], [0x20]⟩] := by
    rw [(merge_returns {} ps es).outcome] at hcs
    cases hcs
    decide
  refine ⟨⟨hps, hes⟩, cs', hcs', ?_, ?_⟩
  · obtain ⟨y, hy, ha, _, _, _, htrust⟩ := hall _ (by rw [hmerge]; exact List.mem_cons_self)
    exact ⟨y, hy, ha, htrust .subSp rfl⟩
  · obtain ⟨y, hy, ha, hrank, _, hjumped, _⟩ :=
      hall _ (by rw [hmerge]; exact List.mem_cons_of_mem _ List.mem_cons_self)
    exact ⟨y, hy, ha, hrank, hjumped⟩

end EntryScan
