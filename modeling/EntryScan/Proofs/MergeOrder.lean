import EntryScan.Proofs.Agreement
import EntryScan.Proofs.Evidence
import EntryScan.Proofs.RecordOrder

/-!
# EntryScan.Proofs.MergeOrder

A merge takes prologues and edges as sets: their order and how often they come make no difference,
but for the choice between kinds of equal trust.

* `Candidate.sources_congr`: the sources for an address depend on the set of edges only.
* `Evidence.Within.alike`: evidence that is within other evidence both ways gives the same
  candidate, up to a kind of equal trust.
* `Prologue.Untied`: no two kinds of equal trust stand at one address. Then the kind is the same too.
* `Sweep.untied_scan`: the prologues of a region are untied, also where it reaches over the top of
  the address space.
-/

namespace EntryScan

variable {c : Config} {ps ps' : List Prologue} {es es' : List CallSite} {a : Int}

/-! ## Candidates up to trust -/

/-- The candidates agree in everything but the prologue kind, and their kinds are trusted alike. -/
structure Candidate.Alike (c : Config) (x y : Candidate) : Prop where
  address : x.address = y.address
  detection : x.detection = y.detection
  confidence : x.confidence = y.confidence
  calledFrom : x.calledFrom = y.calledFrom
  jumpedFrom : x.jumpedFrom = y.jumpedFrom
  trust : x.prologueKind.map (·.trust c) = y.prologueKind.map (·.trust c)

theorem Evidence.eq_of_sources {e e' : Evidence} (hkept : e.prologueKind = e'.prologueKind)
    (hsources : ∀ kind, e.sources kind = e'.sources kind) : e = e' := by
  obtain ⟨kept, called, jumped⟩ := e
  obtain ⟨kept', called', jumped'⟩ := e'
  have hcalled : called = called' := hsources .call
  have hjumped : jumped = jumped' := hsources .jump
  cases hkept
  rw [hcalled, hjumped]

theorem Confidence.eq_of_rank_eq {r s : Confidence} (h : r.rank = s.rank) : r = s := by
  cases r <;> cases s <;> simp [rank] at h ⊢

namespace Evidence

variable {e e' : Evidence}

theorem Within.trust_eq (h : Within c e e') (h' : Within c e' e) :
    e.prologueKind.map (·.trust c) = e'.prologueKind.map (·.trust c) := by
  cases hkept : e.prologueKind with
  | none =>
    cases hkept' : e'.prologueKind with
    | none => rfl
    | some k' =>
      obtain ⟨k, hk, _⟩ := h'.trust k' hkept'
      simp [hkept] at hk
  | some k =>
    obtain ⟨k', hk', hle⟩ := h.trust k hkept
    obtain ⟨k'', hk'', hge⟩ := h'.trust k' hk'
    rw [hkept] at hk''
    cases hk''
    simp [hk', Int.le_antisymm hle hge]

theorem detection_congr (hsources : ∀ kind, e.sources kind = e'.sources kind)
    (htrust : e.prologueKind.map (·.trust c) = e'.prologueKind.map (·.trust c)) :
    (e.candidate c a).detection = (e'.candidate c a).detection := by
  have hcalled : e.calledFrom = e'.calledFrom := hsources .call
  have hjumped : e.jumpedFrom = e'.jumpedFrom := hsources .jump
  cases hkept : e.prologueKind <;> cases hkept' : e'.prologueKind <;>
    simp [candidate, hkept, hkept', hcalled, hjumped] at htrust ⊢
  split <;> rfl

/-- The verdict looks at the sources and at the trust of the kind, and at nothing else. -/
theorem Within.alike (hc : c.TrustAgrees) (h : Within c e e') (h' : Within c e' e)
    (hsources : ∀ kind, e.sources kind = e'.sources kind) :
    (e.candidate c a).Alike c (e'.candidate c a) where
  address := rfl
  detection := detection_congr hsources (h.trust_eq h')
  confidence := Confidence.eq_of_rank_eq (Nat.le_antisymm (h.confidence_le hc) (h'.confidence_le hc))
  calledFrom := hsources .call
  jumpedFrom := hsources .jump
  trust := h.trust_eq h'

end Evidence

/-! ## Inputs with the same elements -/

namespace Candidate

/-- The sources stand in ascending order, so their set gives the list. -/
theorem sources_congr (hes : ∀ e, e ∈ es ↔ e ∈ es') (kind : EdgeKind) :
    (evidenceAt c ps es a).sources kind = (evidenceAt c ps' es' a).sources kind := by
  refine List.Pairwise.eq_of_mem_iff (sources_ascending c ps es a kind)
    (sources_ascending c ps' es' a kind) ?_
  intro s
  rw [mem_sources, mem_sources]
  simp only [hes]

theorem addresses_congr (hps : ∀ p, p ∈ ps ↔ p ∈ ps') (hes : ∀ e, e ∈ es ↔ e ∈ es') :
    (merge c ps es).map (·.address) = (merge c ps' es').map (·.address) := by
  refine List.Pairwise.eq_of_mem_iff (List.pairwise_map.mpr (merge_ascending c ps es))
    (List.pairwise_map.mpr (merge_ascending c ps' es')) ?_
  intro a
  rw [mem_addresses_merge, mem_addresses_merge]
  simp only [SpokenFor, hps, hes]

/-- The candidates are made of their addresses, each from the evidence for it. -/
theorem map_addresses_merge (c : Config) (ps : List Prologue) (es : List CallSite) :
    ((merge c ps es).map (·.address)).map (fun a => (evidenceAt c ps es a).candidate c a) =
      merge c ps es := by
  have hself : ∀ x ∈ merge c ps es,
      (evidenceAt c ps es x.address).candidate c x.address = id x := by
    intro x hx
    exact (mem_merge.mp hx).2.symm
  rw [List.map_map]
  exact (List.map_congr_left hself).trans (List.map_id _)

theorem within_of_same (hps : ∀ p, p ∈ ps ↔ p ∈ ps') (hes : ∀ e, e ∈ es ↔ e ∈ es') (a : Int) :
    Evidence.Within c (evidenceAt c ps es a) (evidenceAt c ps' es' a) :=
  evidenceAt_within c (fun p hp => (hps p).mp hp) (fun e he => (hes e).mp he) a

theorem merge_alike (hc : c.TrustAgrees) (hps : ∀ p, p ∈ ps ↔ p ∈ ps')
    (hes : ∀ e, e ∈ es ↔ e ∈ es') :
    List.Forall₂ (Alike c) (merge c ps es) (merge c ps' es') := by
  rw [← map_addresses_merge c ps es, ← map_addresses_merge c ps' es', addresses_congr hps hes,
    List.forall₂_map_left_iff, List.forall₂_map_right_iff]
  refine List.forall₂_same.mpr ?_
  intro a _
  exact (within_of_same hps hes a).alike hc
    (within_of_same (fun p => (hps p).symm) (fun e => (hes e).symm) a) (sources_congr hes)

end Candidate

/-! ## Kinds without ties -/

/-- Any two prologues at one address are of one kind, or one of the kinds is trusted more. -/
def Prologue.Untied (c : Config) (ps : List Prologue) : Prop :=
  ∀ p ∈ ps, ∀ q ∈ ps, p.address = q.address → p.kind = q.kind ∨ p.kind.trust c ≠ q.kind.trust c

namespace Candidate

/-- The kinds that two merges keep are among those of the first prologues, and trusted alike. -/
theorem prologueKind_congr (huntied : Prologue.Untied c ps) (hps : ∀ p, p ∈ ps ↔ p ∈ ps')
    (htrust : (evidenceAt c ps es a).prologueKind.map (·.trust c) =
      (evidenceAt c ps' es' a).prologueKind.map (·.trust c)) :
    (evidenceAt c ps es a).prologueKind = (evidenceAt c ps' es' a).prologueKind := by
  have hmem {qs : List Prologue} {fs : List CallSite} {k : PrologueKind}
      (hk : (evidenceAt c qs fs a).prologueKind = some k) :
      ∃ p ∈ qs, p.address = a ∧ p.kind = k := by
    rw [prologueKind_evidenceAt] at hk
    exact Prologue.mem_kindsAt.mp (List.argmax_mem hk)
  cases hkept : (evidenceAt c ps es a).prologueKind with
  | none =>
    cases hkept' : (evidenceAt c ps' es' a).prologueKind with
    | none => rfl
    | some k' => simp [hkept, hkept'] at htrust
  | some k =>
    cases hkept' : (evidenceAt c ps' es' a).prologueKind with
    | none => simp [hkept, hkept'] at htrust
    | some k' =>
      rw [hkept, hkept', Option.map_some, Option.map_some, Option.some.injEq] at htrust
      obtain ⟨p, hp, hplace, rfl⟩ := hmem hkept
      obtain ⟨q, hq, hplace', rfl⟩ := hmem hkept'
      rcases huntied p hp q ((hps q).mpr hq) (hplace.trans hplace'.symm) with hsame | hdiffer
      · rw [hsame]
      · exact absurd htrust hdiffer

theorem evidenceAt_congr (huntied : Prologue.Untied c ps) (hps : ∀ p, p ∈ ps ↔ p ∈ ps')
    (hes : ∀ e, e ∈ es ↔ e ∈ es') (a : Int) : evidenceAt c ps es a = evidenceAt c ps' es' a := by
  have htrust := (within_of_same (c := c) hps hes a).trust_eq
    (within_of_same (fun p => (hps p).symm) (fun e => (hes e).symm) a)
  exact Evidence.eq_of_sources (prologueKind_congr huntied hps htrust) (sources_congr hes)

theorem merge_congr (huntied : Prologue.Untied c ps) (hps : ∀ p, p ∈ ps ↔ p ∈ ps')
    (hes : ∀ e, e ∈ es ↔ e ∈ es') : merge c ps es = merge c ps' es' := by
  rw [← map_addresses_merge c ps es, ← map_addresses_merge c ps' es', addresses_congr hps hes]
  refine List.map_congr_left ?_
  intro a _
  rw [evidenceAt_congr huntied hps hes a]

end Candidate

/-- In a region that is no longer than the address space, two prologues share an address only if they
are of one kind or stand at a `push rbp`, whose two kinds differ in trust. -/
theorem Sweep.untied_scan {dec : Decoder} {arch : Arch} {code : List UInt8} (base : Int)
    (hlength : code.length ≤ 2 ^ 64) :
    Prologue.Untied dec.config
      (Prologue.scan arch arch.calleeSaved (readings dec.config arch code base)) := by
  have hsteps : (steps dec.config arch code base).Pairwise
      fun s t => Address.wrap s.address ≠ Address.wrap t.address := by
    refine (steps_address_ne base hlength).imp_of_mem ?_
    intro s t hs ht hne
    rwa [wrap_step_address hs, wrap_step_address ht]
  have hrelated : (Prologue.scan arch arch.calleeSaved (readings dec.config arch code base)).Pairwise
      (Prologue.Related (· ≠ ·) arch) :=
    Prologue.scan_related (fun a h => h rfl)
      (instructions_pairwise (R := fun a b => Address.wrap a ≠ Address.wrap b) hsteps)
  let R (p q : Prologue) : Prop :=
    p.address = q.address → p.kind = q.kind ∨ p.kind.trust {} ≠ q.kind.trust {}
  have : Std.Symm R := ⟨fun p q h heq => (h heq.symm).imp Eq.symm Ne.symm⟩
  refine List.Pairwise.forall_of_forall (R := R) ?_ (hrelated.imp ?_)
  · intro p _ _
    exact Or.inl rfl
  · rintro p q (hne | ⟨-, -, hpush, hclassic⟩) heq
    · exact absurd heq hne
    · rw [hpush, hclassic]
      exact Or.inr (by decide)

/-- **A merge takes its inputs as sets.** Let two merges have the same prologues and the same edges,
in any order and each any number of times. Their candidates agree one by one in everything but the
prologue kind, and the kinds are trusted alike. The kinds agree too where no two kinds of equal trust
stand at one address, as it is with the prologues of any region that is no longer than the address
space. -/
theorem Toolbox.merge_order_free (dec : Decoder) {ps ps' : List Prologue}
    {es es' : List CallSite} (hps : ∀ p, p ∈ ps ↔ p ∈ ps')
    (hes : ∀ e, e ∈ es ↔ e ∈ es') :
    ∃ cs cs', (merge dec.tools ps es).outcome.1 = .ok cs ∧ (merge dec.tools ps' es').outcome.1 = .ok cs' ∧
      List.Forall₂ (Candidate.Alike dec.config) cs cs' ∧
      (Prologue.Untied dec.config ps → cs = cs') ∧
      ∀ (code : List UInt8) (base : Int) (tag : String) (arch : Arch),
        Arch.parse? tag = some arch → code.length ≤ 2 ^ 64 →
        (detectPrologues dec.tools code base tag).outcome.1 = .ok ps →
        Prologue.Untied dec.config ps ∧ cs = cs' := by
  refine ⟨_, _, (merge_returns dec.tools ps es).outcome, (merge_returns dec.tools ps' es').outcome,
    Candidate.merge_alike Config.trustAgrees_default hps hes, ?_, ?_⟩
  · intro huntied
    exact Candidate.merge_congr huntied hps hes
  · intro code base tag arch htag hlength hdetect
    rw [(detectPrologues_returns htag code base).outcome, Except.ok.injEq] at hdetect
    have huntied : Prologue.Untied dec.config ps := hdetect ▸ Sweep.untied_scan base hlength
    exact ⟨huntied, Candidate.merge_congr huntied hps hes⟩

/-- `push rbp; mov rbp, rsp` at the last address, whose two prologues come in the other order and
then once more, with a call to them and a jump that come in the other order too. -/
theorem Toolbox.merge_order_free_across_top :
    let edge (kind : EdgeKind) (s : Int) : CallSite :=
      ⟨s, some (2 ^ 64 - 1), kind, .pcRelative, .high, "", false⟩
    let es := [edge .call 0x10, edge .jump 0x8]
    ∃ ps cs, (detectPrologues {} [0x55, 0x48, 0x89, 0xe5] (2 ^ 64 - 1) "amd64").outcome.1 = .ok ps ∧
      ps.map (·.kind) = [.pushOnly, .classic] ∧
      (merge {} ps es).outcome.1 = .ok cs ∧
      (merge {} (ps.reverse ++ ps) es.reverse).outcome.1 = .ok cs := by
  intro edge es
  have htag : Arch.parse? "amd64" = some .amd64 := by decide
  have hdetect : (detectPrologues {} [0x55, 0x48, 0x89, 0xe5] (2 ^ 64 - 1) "amd64").outcome.1 =
      .ok _ := (detectPrologues_returns htag _ _).outcome
  refine ⟨_, _, hdetect, by decide +kernel, (merge_returns {} _ es).outcome, ?_⟩
  generalize Prologue.scan _ _ _ = ps at hdetect ⊢
  obtain ⟨cs, cs', hcs, hcs', -, -, hscan⟩ := merge_order_free .standard
    (show ∀ p, p ∈ ps ↔ p ∈ ps.reverse ++ ps by simp) (show ∀ e, e ∈ es ↔ e ∈ es.reverse by simp)
  have hsame := (hscan _ _ _ _ htag (by decide) hdetect).2
  rw [(merge_returns {} ps es).outcome, Except.ok.injEq] at hcs
  rw [hcs', hcs, hsame]

/-- Of two kinds that are trusted alike, the one that comes first is kept. -/
example :
    let ps : List Prologue := [⟨0x40, .classic, ""⟩, ⟨0x40, .stpFramePair, ""⟩]
    (Candidate.merge {} ps []).map (·.prologueKind) = [some .classic] ∧
      (Candidate.merge {} ps.reverse []).map (·.prologueKind) = [some .stpFramePair] := by
  decide

end EntryScan
