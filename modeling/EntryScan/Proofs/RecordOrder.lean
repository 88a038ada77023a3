import EntryScan.Proofs.Analysis

/-!
# EntryScan.Proofs.RecordOrder

The order of what the scans find. A record may stand at the look-behind of the instruction that
completes it, so that ascending instructions do not give ascending records by themselves.

* `Matches.kind_unique`: one instruction completes patterns of one kind only.
* `Matches.shared_anchor`: two patterns share an anchor only if it is a `push rbp` with a
  `mov rbp, rsp` after it.
* `Prologue.scan_related`: so any two records of a scan stand at addresses that are related as those
  of the instructions are, or at one `push rbp`.
* `Prologue.Precedes`, `Prologue.scan_precedes`: ascending instructions give records in order.

`Toolbox.records_ordered` says what follows for the scans of a region that does not reach over the
top of the address space, and for the merge.
-/

namespace EntryScan

/-! ## Patterns that exclude each other -/

theorem Instruction.IsFrameStore.not_atBoundary {p : Instruction} (h : p.IsFrameStore) :
    ¬ AtBoundary (some p) := by
  intro hplace
  exact absurd (h.1.symm.trans (hplace p rfl)) (by decide)

namespace Matches

variable {arch : Arch} {previous : Option Instruction} {i j anchor anchor' : Instruction}
  {kind kind' : PrologueKind} {text text' : String}

/-- On x86-64 the operation tells which pattern it completes. -/
theorem lookup_operation (h : Matches .amd64 previous i anchor kind text) :
    [("MOV", .classic), ("SUB", .noFramePointer), ("PUSH", .pushOnly), ("LEA", .leaBased)].lookup
      i.operation = some kind := by
  cases h with
  | classic _ _ hmov _ =>
    rw [hmov]
    rfl
  | noFramePointer hsub =>
    rw [hsub]
    rfl
  | pushOnly hpush =>
    rw [hpush]
    rfl
  | leaBased hlea =>
    rw [hlea]
    rfl

theorem kind_unique (h : Matches arch previous i anchor kind text)
    (h' : Matches arch previous i anchor' kind' text') : kind = kind' := by
  cases arch with
  | amd64 => exact Option.some.inj (h.lookup_operation.symm.trans h'.lookup_operation)
  | arm64 =>
    cases h with
    | stpFramePair hstore hmove =>
      cases h' with
      | stpFramePair => rfl
      | stpOnly _ hother => exact absurd hmove hother
      | strLrPreindex _ _ _ hplace => exact absurd hplace hstore.not_atBoundary
      | subSp _ _ _ hplace => exact absurd hplace hstore.not_atBoundary
    | stpOnly hstore hother =>
      cases h' with
      | stpFramePair _ hmove => exact absurd hmove hother
      | stpOnly => rfl
      | strLrPreindex _ _ _ hplace => exact absurd hplace hstore.not_atBoundary
      | subSp _ _ _ hplace => exact absurd hplace hstore.not_atBoundary
    | strLrPreindex hstr _ _ hplace =>
      cases h' with
      | stpFramePair hstore => exact absurd hplace hstore.not_atBoundary
      | stpOnly hstore => exact absurd hplace hstore.not_atBoundary
      | strLrPreindex => rfl
      | subSp hsub => exact absurd (hstr.symm.trans hsub) (by decide)
    | subSp hsub _ _ hplace =>
      cases h' with
      | stpFramePair hstore => exact absurd hplace hstore.not_atBoundary
      | stpOnly hstore => exact absurd hplace hstore.not_atBoundary
      | strLrPreindex hstr => exact absurd (hsub.symm.trans hstr) (by decide)
      | subSp => rfl

/-- Two patterns, one completed by its anchor and one after it. -/
theorem shared_anchor (hprevious : previous ≠ some i) (hne : j ≠ i)
    (h : Matches arch previous i i kind text) (h' : Matches arch (some i) j i kind' text') :
    arch = .amd64 ∧ kind = .pushOnly ∧ kind' = .classic := by
  cases h' with
  | classic hpush =>
    cases h with
    | classic => exact absurd rfl hprevious
    | noFramePointer hsub => exact absurd (hpush.symm.trans hsub) (by decide)
    | pushOnly => exact ⟨rfl, rfl, rfl⟩
    | leaBased hlea => exact absurd (hpush.symm.trans hlea) (by decide)
  | noFramePointer => exact absurd rfl hne
  | pushOnly => exact absurd rfl hne
  | leaBased => exact absurd rfl hne
  | stpFramePair hstore =>
    cases h with
    | stpFramePair => exact absurd rfl hprevious
    | stpOnly => exact absurd rfl hprevious
    | strLrPreindex hstr => exact absurd (hstore.1.symm.trans hstr) (by decide)
    | subSp hsub => exact absurd (hstore.1.symm.trans hsub) (by decide)
  | stpOnly hstore =>
    cases h with
    | stpFramePair => exact absurd rfl hprevious
    | stpOnly => exact absurd rfl hprevious
    | strLrPreindex hstr => exact absurd (hstore.1.symm.trans hstr) (by decide)
    | subSp hsub => exact absurd (hstore.1.symm.trans hsub) (by decide)
  | strLrPreindex => exact absurd rfl hne
  | subSp => exact absurd rfl hne

end Matches

/-! ## The order of the records -/

namespace Prologue

variable {arch : Arch} {previous : Option Instruction} {i : Instruction} {p q : Prologue}

theorem mem_completed : q ∈ completed arch arch.calleeSaved previous i ↔
    ∃ kind, Records arch previous i kind q := by
  cases arch with
  | amd64 => exact Amd64.mem_prologuesAt
  | arm64 => exact Arm64.mem_prologuesAt

/-- An instruction completes one pattern at most. -/
theorem completed_pairwise (R : Prologue → Prologue → Prop) :
    (completed arch arch.calleeSaved previous i).Pairwise R := by
  have hboth : ∀ {p q : Prologue} {kind kind' : PrologueKind}, Records arch previous i kind p →
      Records arch previous i kind' q → kind ≠ kind' → R p q := by
    rintro p q kind kind' ⟨anchor, text, hm, -⟩ ⟨anchor', text', hm', -⟩ hne
    exact absurd (hm.kind_unique hm') hne
  cases arch with
  | amd64 =>
    rw [completed, Amd64.prologuesAt, List.pairwise_filterMap]
    simp only [List.pairwise_cons, List.forall_mem_cons, List.not_mem_nil, false_imp_iff,
      implies_true, List.Pairwise.nil, and_true, id, Amd64.classic?_eq_some_iff,
      Amd64.noFramePointer?_eq_some_iff, Amd64.pushOnly?_eq_some_iff, Amd64.leaBased?_eq_some_iff]
    refine ⟨⟨?_, ?_, ?_⟩, ⟨?_, ?_⟩, ?_⟩ <;> exact fun p hp q hq => hboth hp hq (by decide)
  | arm64 =>
    rw [completed, Arm64.prologuesAt, List.pairwise_filterMap]
    simp only [List.pairwise_cons, List.forall_mem_cons, List.not_mem_nil, false_imp_iff,
      implies_true, List.Pairwise.nil, and_true, id, Arm64.frame?_eq_some_iff,
      Arm64.strLr?_eq_some_iff, Arm64.subSp?_eq_some_iff]
    refine ⟨⟨?_, ?_⟩, ?_⟩
    · rintro p (hp | hp) q hq <;> exact hboth hp hq (by decide)
    · rintro p (hp | hp) q hq <;> exact hboth hp hq (by decide)
    · intro p hp q hq
      exact hboth hp hq (by decide)

section Placed

variable {R : Int → Int → Prop}

/-- Any two instructions stand at related addresses. -/
def Placed (R : Int → Int → Prop) (is : List Instruction) : Prop :=
  is.Pairwise fun i j => R (Address.wrap i.address) (Address.wrap j.address)

/-- The records stand at related addresses, or at the same `push rbp`. -/
def Related (R : Int → Int → Prop) (arch : Arch) (p q : Prologue) : Prop :=
  R p.address q.address ∨
    arch = .amd64 ∧ p.address = q.address ∧ p.kind = .pushOnly ∧ q.kind = .classic

/-- What is found from an instruction on, and what is found after it. -/
theorem related_of_later (hR : ∀ a, ¬ R a a) {rs : List Reading}
    (hplaced : Placed R (previous.toList ++ i :: Reading.instructions rs))
    (hp : p ∈ completed arch arch.calleeSaved previous i)
    (hq : q ∈ Reading.collectFrom (completed arch arch.calleeSaved) (some i) rs) :
    p.Related R arch q := by
  obtain ⟨_, hafter, hcross⟩ := List.pairwise_append.mp hplaced
  have hlater : ∀ x, .insn x ∈ rs → R (Address.wrap i.address) (Address.wrap x.address) := by
    intro x hx
    exact (List.pairwise_cons.mp hafter).1 x (Reading.mem_instructions.mpr hx)
  have hearlier : ∀ x, previous = some x → ∀ y ∈ i :: Reading.instructions rs,
      R (Address.wrap x.address) (Address.wrap y.address) := by
    rintro x rfl y hy
    exact hcross x List.mem_cons_self y hy
  obtain ⟨kind, anchor, text, hm, rfl⟩ := mem_completed.mp hp
  obtain ⟨earlier, j, later, rfl, hvisit⟩ := Reading.mem_collectFrom.mp hq
  obtain ⟨kind', anchor', text', hm', rfl⟩ := mem_completed.mp hvisit
  have hnew : .insn anchor' ∈ earlier ++ .insn j :: later →
      (anchored anchor.address kind text).Related R arch
        (anchored anchor'.address kind' text') := by
    intro hmem
    rcases hm.anchor_cases with rfl | hbehind
    · exact Or.inl (hlater anchor' hmem)
    · exact Or.inl (hearlier anchor hbehind anchor'
        (List.mem_cons_of_mem i (Reading.mem_instructions.mpr hmem)))
  rcases hm'.anchor_cases with rfl | hbehind
  · exact hnew (by simp)
  · rcases Reading.mem_of_lookbehindFrom hbehind with hsame | hmem
    · -- the later record stands at `i` itself, where the first one may stand too
      cases hsame
      rcases hm.anchor_cases with rfl | hprevious
      · rw [hbehind] at hm'
        have hj := hlater j (by simp)
        obtain ⟨harch, hkind, hkind'⟩ := Matches.shared_anchor
          (fun hsame => hR _ (hearlier _ hsame _ List.mem_cons_self))
          (fun hsame => hR _ (hsame ▸ hj)) hm hm'
        exact Or.inr ⟨harch, rfl, hkind, hkind'⟩
      · exact Or.inl (hearlier anchor hprevious _ List.mem_cons_self)
    · exact hnew (List.mem_append_left _ hmem)

/-- By induction on the readings, with the look-behind among the instructions. -/
theorem collectFrom_related (hR : ∀ a, ¬ R a a) (rs : List Reading) :
    ∀ previous : Option Instruction, Placed R (previous.toList ++ Reading.instructions rs) →
      (Reading.collectFrom (completed arch arch.calleeSaved) previous rs).Pairwise
        (Related R arch) := by
  induction rs with
  | nil =>
    intro previous _
    exact .nil
  | cons r rs ih =>
    intro previous hplaced
    cases r with
    | marker => exact ih previous hplaced
    | failed => exact ih none (List.pairwise_append.mp hplaced).2.1
    | insn i =>
      refine List.pairwise_append.mpr ⟨completed_pairwise _, ?_, ?_⟩
      · exact ih (some i) (List.pairwise_append.mp hplaced).2.1
      · intro p hp q hq
        exact related_of_later hR hplaced hp hq

theorem scan_related (hR : ∀ a, ¬ R a a) {rs : List Reading}
    (hplaced : Placed R (Reading.instructions rs)) :
    (scan arch arch.calleeSaved rs).Pairwise (Related R arch) := by
  rw [scan_eq_collect]
  exact collectFrom_related hR rs none hplaced

end Placed

/-- One record comes before another: at a lower address, or at the same `push rbp`. -/
def Precedes : Arch → Prologue → Prologue → Prop := Related (· < ·)

theorem scan_precedes {rs : List Reading} (hascend : Placed (· < ·) (Reading.instructions rs)) :
    (scan arch arch.calleeSaved rs).Pairwise (Precedes arch) :=
  scan_related Int.lt_irrefl hascend

/-! ## What the order says -/

theorem Precedes.le (h : p.Precedes arch q) : p.address ≤ q.address := by
  rcases h with hlt | ⟨-, heq, -⟩
  · exact le_of_lt hlt
  · exact le_of_eq heq

theorem Precedes.kinds (h : p.Precedes arch q) (heq : p.address = q.address) :
    arch = .amd64 ∧ p.kind = .pushOnly ∧ q.kind = .classic := by
  rcases h with hlt | ⟨harch, -, hkinds⟩
  · omega
  · exact ⟨harch, hkinds⟩

theorem Precedes.ne (h : p.Precedes arch q) : (p.address, p.kind) ≠ (q.address, q.kind) := by
  intro hsame
  obtain ⟨haddress, hkind⟩ := Prod.mk.inj hsame
  obtain ⟨-, hp, hq⟩ := h.kinds haddress
  rw [hp, hq] at hkind
  cases hkind

/-- No three records share an address. -/
theorem Precedes.lt_of_between {r : Prologue} (h : p.Precedes arch r) (h' : r.Precedes arch q) :
    p.address < q.address := by
  have hle := h.le
  have hle' := h'.le
  by_contra hge
  obtain ⟨-, -, hclassic⟩ := h.kinds (by omega)
  obtain ⟨-, hpush, -⟩ := h'.kinds (by omega)
  rw [hclassic] at hpush
  cases hpush

variable {ps : List Prologue}

theorem adjacent_of_address_eq (h : ps.Pairwise (Precedes arch))
    {before between after : List Prologue} (hps : ps = before ++ p :: (between ++ q :: after))
    (heq : p.address = q.address) :
    between = [] ∧ arch = .amd64 ∧ p.kind = .pushOnly ∧ q.kind = .classic := by
  subst hps
  obtain ⟨hp, hrest⟩ := List.pairwise_cons.mp (List.pairwise_append.mp h).2.1
  have hpq : p.Precedes arch q := hp q (by simp)
  refine ⟨?_, hpq.kinds heq⟩
  cases between with
  | nil => rfl
  | cons r between =>
    have hpr : p.Precedes arch r := hp r (by simp)
    have hrq : r.Precedes arch q := (List.pairwise_cons.mp hrest).1 q (by simp)
    have hlt := hpr.lt_of_between hrq
    omega

theorem length_filter_address_le (h : ps.Pairwise (Precedes arch)) (a : Int) :
    (ps.filter (·.address = a)).length ≤ 2 := by
  have hhere : ∀ p ∈ ps.filter (·.address = a), p.address = a := by
    intro p hp
    exact of_decide_eq_true (List.mem_filter.mp hp).2
  have horder := h.filter (fun p => decide (p.address = a))
  generalize ps.filter (fun p => decide (p.address = a)) = found at hhere horder ⊢
  by_contra hlong
  obtain ⟨p, r, q, rest, rfl⟩ : ∃ p r q rest, found = p :: r :: q :: rest := by
    cases found with
    | nil => simp at hlong
    | cons p found =>
      cases found with
      | nil => simp at hlong
      | cons r found =>
        cases found with
        | nil => simp at hlong
        | cons q rest => exact ⟨p, r, q, rest, rfl⟩
  obtain ⟨hp, hrest⟩ := List.pairwise_cons.mp horder
  have hlt : p.address < q.address :=
    (hp r (by simp)).lt_of_between ((List.pairwise_cons.mp hrest).1 q (by simp))
  rw [hhere p (by simp), hhere q (by simp)] at hlt
  omega

/-- What is kept for the address of a record differs from it in trust. -/
theorem trust_ne (h : ps.Pairwise (Precedes arch)) {earlier later : List Prologue}
    (hps : ps = earlier ++ p :: later) {e : Evidence} {kind : PrologueKind}
    (he : (earlier.foldl (Candidate.gatherPrologue {}) []).get? p.address = some e)
    (hkind : e.prologueKind = some kind) : kind.trust {} ≠ p.kind.trust {} := by
  rw [Candidate.get?_gatherPrologues] at he
  split at he
  · cases he
  · cases he
    rcases Candidate.prologueKind_withPrologues_mem hkind with hnone | ⟨q, hq, rfl⟩
    · cases hnone
    · obtain ⟨hmem, haddress⟩ := List.mem_filter.mp hq
      subst hps
      have hqp : q.Precedes arch p := (List.pairwise_append.mp h).2.2 q hmem p List.mem_cons_self
      obtain ⟨-, hpush, hclassic⟩ := hqp.kinds (of_decide_eq_true haddress)
      rw [hpush, hclassic]
      decide

end Prologue

/-! ## Regions below the top -/

namespace Sweep

variable {dec : Decoder} {arch : Arch} {code : List UInt8} {base : Int}

theorem steps_address_lt (hbase : 0 ≤ base) (htop : base + code.length ≤ 2 ^ 64) :
    (steps dec.config arch code base).Pairwise fun s t => s.address < t.address := by
  have hwalk : Walk dec.config arch code base 0 (steps dec.config arch code base) :=
    steps_walk (Nat.succ_pos 3)
  refine (hwalk.ascending (Nat.succ_pos 3)).imp_of_mem ?_
  intro s t hs ht hlt
  obtain ⟨hroom, hturn⟩ := step_turn ht
  have hbounds := hturn.size_bounds (Nat.succ_pos 3) hroom
  rw [hturn.address_eq, (step_turn hs).2.address_eq, Address.wrap_eq_emod, Address.wrap_eq_emod]
  omega

theorem instructions_ascend (hbase : 0 ≤ base) (htop : base + code.length ≤ 2 ^ 64) :
    Prologue.Placed (· < ·) (Reading.instructions (readings dec.config arch code base)) := by
  have hsteps : (steps dec.config arch code base).Pairwise
      fun s t => Address.wrap s.address < Address.wrap t.address := by
    refine (steps_address_lt hbase htop).imp_of_mem ?_
    intro s t hs ht hlt
    rwa [wrap_step_address hs, wrap_step_address ht]
  exact instructions_pairwise (R := fun a b => Address.wrap a < Address.wrap b) hsteps

/-- A classic record stands at a `push rbp`. -/
theorem push_of_classic {q : Prologue}
    (hq : q ∈ Prologue.scan arch arch.calleeSaved (readings dec.config arch code base))
    (hkind : q.kind = .classic) :
    ∃ s ∈ steps dec.config arch code base, s.address = q.address ∧ ∃ push, s.reading = .insn push ∧
      push.operation = "PUSH" ∧ push.operand? 0 = some (.reg "rbp") := by
  obtain ⟨earlier, i, later, kind, hrs, anchor, text, hm, rfl⟩ := Prologue.mem_scan.mp hq
  cases hkind
  have hmem : Reading.lookbehind earlier = some anchor →
      .insn anchor ∈ readings dec.config arch code base := by
    intro hbehind
    rw [hrs]
    exact List.mem_append_left _ (Reading.mem_of_lookbehind hbehind)
  generalize Reading.lookbehind earlier = previous at hm hmem
  cases hm with
  | classic hpush hrbp =>
    obtain ⟨s, hs, hreading⟩ := mem_readings.mp (hmem rfl)
    refine ⟨s, hs, ?_, anchor, hreading, hpush, hrbp⟩
    rw [← wrap_step_address hs, ← step_insn_address hs hreading]
    rfl

end Sweep

/-- **The records of a scan stand in order.** In a region that does not reach over the top of the
address space, call sites have ascending sources. Prologues have addresses that do not descend, and
no two are of one kind at one address. Two of them share an address only on x86-64, where a
`push rbp` gives a push-only record and right after it a classic one. So the merge never compares two
kinds of equal trust. -/
theorem Toolbox.records_ordered (dec : Decoder) {tag : String} {arch : Arch}
    (htag : Arch.parse? tag = some arch) (code : List UInt8) (base : Int) (hbase : 0 ≤ base)
    (htop : base + code.length ≤ 2 ^ 64) :
    (∃ es, (detectCallSites dec.tools code base tag).outcome.1 = .ok es ∧
      es.Pairwise fun e f => e.source < f.source) ∧
    ∃ ps, (detectPrologues dec.tools code base tag).outcome.1 = .ok ps ∧
      (ps.Pairwise fun p q => p.address ≤ q.address) ∧
      (ps.map fun p => (p.address, p.kind)).Nodup ∧
      (arch = .arm64 → (ps.map (·.address)).Nodup) ∧
      (∀ (before between after : List Prologue) (p q : Prologue),
        ps = before ++ p :: (between ++ q :: after) → p.address = q.address →
          between = [] ∧ p.kind = .pushOnly ∧ q.kind = .classic ∧
          ∃ s ∈ Sweep.steps dec.config arch code base, s.address = p.address ∧ ∃ push,
            s.reading = .insn push ∧ push.operation = "PUSH" ∧
            push.operand? 0 = some (.reg "rbp")) ∧
      (∀ a, (ps.filter (·.address = a)).length ≤ 2) ∧
      ∀ (earlier : List Prologue) (p : Prologue) later, ps = earlier ++ p :: later → ∀ e kind,
        (earlier.foldl (Candidate.gatherPrologue {}) []).get? p.address = some e →
        e.prologueKind = some kind → kind.trust {} ≠ p.kind.trust {} := by
  have horder : (Prologue.scan arch arch.calleeSaved
      (Sweep.readings dec.config arch code base)).Pairwise (Prologue.Precedes arch) :=
    Prologue.scan_precedes (Sweep.instructions_ascend hbase htop)
  refine ⟨⟨_, (detectCallSites_returns htag _ _).outcome, ?_⟩,
    _, (detectPrologues_returns htag _ _).outcome, ?_, ?_, ?_, ?_, ?_, ?_⟩
  · exact CallSite.edges_pairwise (Sweep.instructions_pairwise (Sweep.steps_address_lt hbase htop))
  · exact horder.imp Prologue.Precedes.le
  · rw [List.Nodup, List.pairwise_map]
    exact horder.imp Prologue.Precedes.ne
  · rintro rfl
    rw [List.Nodup, List.pairwise_map]
    refine horder.imp ?_
    intro p q h heq
    cases (h.kinds heq).1
  · intro before between after p q hps heq
    obtain ⟨hbetween, -, hpush, hclassic⟩ := Prologue.adjacent_of_address_eq horder hps heq
    refine ⟨hbetween, hpush, hclassic, ?_⟩
    rw [heq]
    exact Sweep.push_of_classic (by rw [hps]; simp) hclassic
  · exact Prologue.length_filter_address_le horder
  · intro earlier p later hps e kind he hkind
    exact Prologue.trust_ne horder hps he hkind

/-- `push rbp; mov rbp, rsp` that ends at the top of the address space gives both records of one
address. -/
theorem Toolbox.records_ordered_below_top :
    ∃ ps, (detectPrologues {} [0x55, 0x48, 0x89, 0xe5] (2 ^ 64 - 4) "amd64").outcome.1 = .ok ps ∧
      ps.map (·.address) = [2 ^ 64 - 4, 2 ^ 64 - 4] ∧
      (ps.map fun p => (p.address, p.kind)).Nodup := by
  have htag : Arch.parse? "amd64" = some .amd64 := by decide
  obtain ⟨-, ps, hps, -, hnodup, -⟩ :=
    records_ordered .standard htag [0x55, 0x48, 0x89, 0xe5] (2 ^ 64 - 4) (by decide) (by decide)
  refine ⟨ps, hps, ?_, hnodup⟩
  rw [(detectPrologues_returns htag _ _).outcome] at hps
  cases hps
  decide +kernel

end EntryScan
