import EntryScan.Proofs.Analysis

/-!
# EntryScan.Proofs.Restart

A sweep taken up again at one of its steps. Nothing is carried from step to step but the place, and
nothing from instruction to instruction but the look-behind, so that the rest of a region can be
swept on its own.

* `Sweep.steps_split`: the steps from one step on are the sweep over the bytes from there on.
* `Prologue.completed_of_atBoundary`: no pattern tells a return before it from nothing before it.
* `Toolbox.restart_exact`: edges can be collected in two parts at any step, and prologues at a step
  behind a return or a failure.
-/

namespace EntryScan

/-- The step, seen from a region that begins `k` bytes earlier. -/
def Step.shift (k : Nat) (s : Step) : Step := { s with offset := s.offset + k }

namespace Sweep

variable {c : Config} {arch : Arch} {code : List UInt8} {base : Int} {k : Nat}

/-- The steps over bytes depend on where these stand, and not on where the region begins. -/
theorem stepsFrom_shift (k offset : Nat) (rest : List UInt8) :
    stepsFrom c arch base (offset + k) rest =
      (stepsFrom c arch (base + k) offset rest).map (·.shift k) := by
  fun_induction stepsFrom c arch (base + k) offset rest with
  | case1 => rw [stepsFrom, List.map_nil]
  | case2 offset b bs hfew => rw [stepsFrom, if_pos hfew, List.map_nil]
  | case3 offset b bs hfew address reading size hread ih =>
    have haddress : Address.wrap (base + (offset + k : Nat)) = address := by
      congr 1
      omega
    rw [stepsFrom, if_neg hfew, List.map_cons, ← ih]
    simp only [haddress, hread, Nat.add_right_comm offset k size, Step.shift]

theorem Walk.split (hc : 0 < c.arm64Window) {ss : List Step} (h : Walk c arch code base k ss)
    {s : Step} (hs : s ∈ ss) :
    ∃ before after, ss = before ++ after ∧ (∀ t ∈ before, t.offset < s.offset) ∧
      Walk c arch code base s.offset after := by
  induction h with
  | done _ => cases hs
  | @turn k first ss hroom hturn hrest ih =>
    cases hs with
    | head =>
      refine ⟨[], _, rfl, ?_, ?_⟩
      · intro t ht
        cases ht
      · rw [hturn.offset_eq]
        exact .turn hroom hturn hrest
    | tail _ hmem =>
      obtain ⟨before, after, rfl, hbefore, hafter⟩ := ih hmem
      refine ⟨first :: before, after, rfl, ?_, hafter⟩
      intro t ht
      cases ht with
      | head =>
        have hle := hrest.le_offset hmem
        have hpos := (hturn.size_bounds hc hroom).1
        rw [hturn.offset_eq]
        omega
      | tail _ ht => exact hbefore t ht

/-- The steps from one step on are the sweep over the bytes from there on. -/
theorem steps_split (hc : 0 < c.arm64Window) {s : Step} (hs : s ∈ steps c arch code base) :
    let rest := (steps c arch (code.drop s.offset) (base + s.offset)).map (·.shift s.offset)
    (steps c arch code base).filter (s.offset ≤ ·.offset) = rest ∧
      steps c arch code base = (steps c arch code base).filter (·.offset < s.offset) ++ rest := by
  intro rest
  obtain ⟨before, after, hsplit, hbefore, hafter⟩ := (steps_walk hc).split hc hs
  have hge : ∀ t ∈ after, s.offset ≤ t.offset := fun t ht => hafter.le_offset ht
  have hrest : after = rest := by
    -- from the step on, the loop can only go on as the sweep does
    have hwalk : Walk c arch code base s.offset (stepsFrom c arch base s.offset _) :=
      walk_stepsFrom hc code.length s.offset (Nat.le_add_left _ _)
    have hshift : stepsFrom c arch base (0 + s.offset) (code.drop s.offset) = rest :=
      stepsFrom_shift s.offset 0 _
    rw [Nat.zero_add] at hshift
    exact (hafter.deterministic hwalk).trans hshift
  rw [← hrest, hsplit, List.filter_append, List.filter_append]
  constructor
  · have hnone : before.filter (s.offset ≤ ·.offset) = [] := by simpa using hbefore
    have hall : after.filter (s.offset ≤ ·.offset) = after := by simpa using hge
    rw [hnone, hall, List.nil_append]
  · have hall : before.filter (·.offset < s.offset) = before := by simpa using hbefore
    have hnone : after.filter (·.offset < s.offset) = [] := by simpa using hge
    rw [hall, hnone, List.append_nil]

end Sweep

/-! ## Boundaries -/

/-- The last of the readings that is no marker is a failed one or a return, or there is none. -/
def Reading.EndsAtBoundary (earlier : List Reading) : Prop :=
  ∀ r, (earlier.filter (· ≠ .marker)).getLast? = some r →
    r = .failed ∨ ∃ i, r = .insn i ∧ i.operation = "RET"

theorem Reading.EndsAtBoundary.lookbehind {earlier : List Reading} (h : EndsAtBoundary earlier) :
    AtBoundary (lookbehind earlier) := by
  intro p hp
  unfold Reading.lookbehind lookbehindFrom at hp
  split at hp
  · cases hp
  · rename_i i hlast
    cases hp
    rcases h _ hlast with hfailed | ⟨i, hi, hret⟩
    · cases hfailed
    · cases hi
      exact hret
  · cases hp

theorem Amd64.prologuesAt_of_atBoundary {previous : Option Instruction} (preserved : List String)
    (h : AtBoundary previous) : prologuesAt preserved previous = prologuesAt preserved none := by
  cases previous with
  | none => rfl
  | some p =>
    have hret : p.operation = "RET" := h p rfl
    funext i
    have hclassic : classic? (some p) i = classic? none i := by
      simp [classic?, isPushRbp, hret]
    have hallocates : allocates (some p) = allocates none := by
      simp [allocates, hret]
    have hboundary : atBoundary (some p) = atBoundary none := by
      simp [atBoundary, hret]
    simp only [prologuesAt, hclassic, noFramePointer?, pushOnly?, leaBased?, hallocates, hboundary]

theorem Arm64.prologuesAt_of_atBoundary {previous : Option Instruction}
    (h : AtBoundary previous) : prologuesAt previous = prologuesAt none := by
  cases previous with
  | none => rfl
  | some p =>
    have hret : p.operation = "RET" := h p rfl
    funext i
    have hframe : frame? (some p) i = frame? none i := by
      simp [frame?, isFrameStore, hret]
    have hboundary : atBoundary (some p) = atBoundary none := by
      simp [atBoundary, hret]
    simp only [prologuesAt, hframe, strLr?, subSp?, hboundary]

/-- No pattern tells a return before it from nothing before it. -/
theorem Prologue.completed_of_atBoundary (arch : Arch) (preserved : List String)
    {previous : Option Instruction} (h : AtBoundary previous) :
    completed arch preserved previous = completed arch preserved none := by
  cases arch with
  | amd64 => exact Amd64.prologuesAt_of_atBoundary preserved h
  | arm64 => exact Arm64.prologuesAt_of_atBoundary h

theorem Prologue.scan_append_of_boundary (arch : Arch) (preserved : List String)
    {earlier : List Reading} (h : Reading.EndsAtBoundary earlier) (later : List Reading) :
    scan arch preserved (earlier ++ later) =
      scan arch preserved earlier ++ scan arch preserved later := by
  have hsame := completed_of_atBoundary arch preserved h.lookbehind
  simp only [scan_eq_collect, Reading.collect_append]
  exact congrArg _ (Reading.collectFrom_congr hsame later)

/-! ## Taking up a sweep again -/

/-- **A sweep can be taken up again at any of its steps.** The steps from offset `k` on are those of
the sweep over the bytes from `k` on, shifted by `k`. So the edges of a region are those of the
steps before `k` and those of the rest. The same holds of the prologues where the last step before
`k`, apart from markers, failed or is a return, or there is none. -/
theorem Toolbox.restart_exact (dec : Decoder) {tag : String} {arch : Arch}
    (htag : Arch.parse? tag = some arch) {code : List UInt8} {base : Int} {k : Nat}
    (hk : k ∈ (Sweep.steps dec.config arch code base).map (·.offset)) :
    let ss := Sweep.steps dec.config arch code base
    let rest := (Sweep.steps dec.config arch (code.drop k) (base + k)).map (·.shift k)
    let before := (ss.filter (·.offset < k)).map (·.reading)
    ss.filter (k ≤ ·.offset) = rest ∧ ss = ss.filter (·.offset < k) ++ rest ∧
    (∃ first second, CallSite.scan dec.config arch before = .ok first ∧
      (detectCallSites dec.tools (code.drop k) (base + k) tag).outcome.1 = .ok second ∧
      (detectCallSites dec.tools code base tag).outcome.1 = .ok (first ++ second)) ∧
    (Reading.EndsAtBoundary before → ∃ second,
      (detectPrologues dec.tools (code.drop k) (base + k) tag).outcome.1 = .ok second ∧
      (detectPrologues dec.tools code base tag).outcome.1 =
        .ok (Prologue.scan arch arch.calleeSaved before ++ second)) := by
  intro ss rest before
  obtain ⟨s, hs, rfl⟩ := List.mem_map.mp hk
  obtain ⟨hfrom, hsplit⟩ := Sweep.steps_split (Nat.succ_pos 3) hs
  have hreadings : Sweep.readings dec.config arch code base =
      before ++ Sweep.readings dec.config arch (code.drop s.offset) (base + s.offset) := by
    rw [Sweep.readings, hsplit, List.map_append, List.map_map]
    rfl
  refine ⟨hfrom, hsplit, ?_, ?_⟩
  · refine ⟨_, _, CallSite.scan_eq_edges _ _, (detectCallSites_returns htag _ _).outcome, ?_⟩
    rw [← CallSite.edges_append, ← hreadings]
    exact (detectCallSites_returns htag _ _).outcome
  · intro hboundary
    refine ⟨_, (detectPrologues_returns htag _ _).outcome, ?_⟩
    rw [← Prologue.scan_append_of_boundary _ _ hboundary, ← hreadings]
    exact (detectPrologues_returns htag _ _).outcome

/-- `ret; endbr64; push rbp; mov rbp, rsp` three bytes below the top of the address space, taken up
again at the push. Its look-behind is the return, and both prologues stand behind the wrap. -/
theorem Toolbox.restart_exact_behind_ret :
    let code : List UInt8 := [0xc3, 0xf3, 0x0f, 0x1e, 0xfa, 0x55, 0x48, 0x89, 0xe5]
    let found : List Prologue :=
      [⟨2, .pushOnly, "push rbp"⟩, ⟨2, .classic, "push rbp; mov rbp, rsp"⟩]
    (detectPrologues {} (code.drop 5) (2 ^ 64 - 3 + (5 : Nat)) "amd64").outcome.1 = .ok found ∧
      (detectPrologues {} code (2 ^ 64 - 3) "amd64").outcome.1 = .ok ([] ++ found) := by
  intro code found
  have htag : Arch.parse? "amd64" = some .amd64 := by decide
  have hk : 5 ∈ (Sweep.steps {} .amd64 code (2 ^ 64 - 3)).map (·.offset) := by decide +kernel
  let before := ((Sweep.steps {} .amd64 code (2 ^ 64 - 3)).filter (·.offset < 5)).map (·.reading)
  have hbefore : before = [.insn ⟨2 ^ 64 - 3, "RET", "ret", "", []⟩, .marker] := by decide +kernel
  have hboundary : Reading.EndsAtBoundary before := by
    rw [hbefore]
    rintro r ⟨⟩
    exact Or.inr ⟨_, rfl, rfl⟩
  obtain ⟨_, _, _, hprologues⟩ := restart_exact .standard htag hk
  obtain ⟨second, hsecond, hall⟩ := hprologues hboundary
  have hfound : (detectPrologues {} (code.drop 5) (2 ^ 64 - 3 + (5 : Nat)) "amd64").outcome.1 =
      .ok found := by
    rw [(detectPrologues_returns htag _ _).outcome]
    decide +kernel
  refine ⟨hfound, ?_⟩
  rw [hall]
  rw [hfound] at hsecond
  cases hsecond
  have hnone : Prologue.scan .amd64 (Arch.calleeSaved .amd64) before = [] := by
    rw [hbefore]
    decide
  exact congrArg (fun ps => Except.ok (ps ++ found)) hnone

end EntryScan
