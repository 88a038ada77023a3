import EntryScan.Proofs.Analysis

/-!
# EntryScan.Proofs.Extension

Regions that go on with further bytes. A turn of the sweep looks at a bounded number of bytes, so
what it yields far enough from the end of a region is final.

* `Turn.append`: a turn with all the bytes it may look at is the same in a longer region.
* `Walk.settled_isPrefix`: so two sweeps stay together up to the last such turn.
* `Toolbox.append_keeps_settled`: the scans keep what they made of these turns. On A64 this is all
  that they found.
-/

namespace EntryScan
namespace Sweep

variable {c : Config} {arch : Arch} {code : List UInt8} {base : Int} {k : Nat}

/-- The most bytes that a turn looks at: on x86-64 a marker or a window, on A64 a word. -/
def reach (c : Config) : Arch → Nat
  | .amd64 => max 4 c.amd64Window
  | .arm64 => c.arm64Window

theorem windowSize_le_reach : windowSize c arch ≤ reach c arch := by
  cases arch with
  | amd64 => exact Nat.le_max_right _ _
  | arm64 => exact Nat.le_refl _

theorem needed_le_reach : needed c arch ≤ reach c arch := by
  cases arch with
  | amd64 => exact Nat.le_trans (Nat.succ_pos 3) (Nat.le_max_left 4 _)
  | arm64 => exact Nat.le_refl _

theorem take_drop_append {n : Nat} (ext : List UInt8) (h : k + n ≤ code.length) :
    ((code ++ ext).drop k).take n = (code.drop k).take n := by
  rw [List.drop_append_of_le_length (by omega), List.take_append_of_le_length]
  rw [List.length_drop]
  omega

theorem HasRoom.append (ext : List UInt8) (h : HasRoom c arch code k) :
    HasRoom c arch (code ++ ext) k := by
  unfold HasRoom at h ⊢
  rw [List.length_append]
  omega

theorem markerAt_append (ext : List UInt8) (h : k + reach c arch ≤ code.length) :
    MarkerAt c arch (code ++ ext) k ↔ MarkerAt c arch code k := by
  cases arch with
  | arm64 => simp [MarkerAt]
  | amd64 =>
    have hfour : k + 4 ≤ code.length :=
      Nat.le_trans (Nat.add_le_add_left (Nat.le_max_left 4 _) k) h
    have hlonger : k + 4 ≤ (code ++ ext).length := by
      rw [List.length_append]
      omega
    simp only [MarkerAt, take_drop_append ext hfour, hfour, hlonger]

theorem decodeAt?_append (hc : 0 < c.arm64Window) (ext : List UInt8)
    (h : k + reach c arch ≤ code.length) (address : Int) :
    decodeAt? c arch (code ++ ext) k address = decodeAt? c arch code k address := by
  have hneeded := needed_pos arch hc
  have hle : needed c arch ≤ reach c arch := needed_le_reach
  have hwindow : k + windowSize c arch ≤ code.length :=
    Nat.le_trans (Nat.add_le_add_left windowSize_le_reach k) h
  -- in both regions there is room, and the windows are the same
  ext d
  have hlength : (code ++ ext).length = code.length + ext.length := List.length_append
  simp only [decodeAt?_ofNat, decodeFront?_eq_some_iff, take_drop_append ext hwindow,
    ← List.length_pos_iff, List.length_drop, hlength]
  refine and_congr ?_ (and_congr ?_ Iff.rfl) <;> omega

/-- A turn with all the bytes it may look at is the same in a longer region. -/
theorem Turn.append (hc : 0 < c.arm64Window) (ext : List UInt8)
    (h : k + reach c arch ≤ code.length) {s : Step} (hturn : Turn c arch code base k s) :
    Turn c arch (code ++ ext) base k s := by
  cases hturn with
  | marker hm => exact .marker ((markerAt_append ext h).mpr hm)
  | insn hno hd =>
    refine .insn (fun hm => hno ((markerAt_append ext h).mp hm)) ?_
    rw [decodeAt?_append hc ext h, hd]
  | failed hno hd =>
    refine .failed (fun hm => hno ((markerAt_append ext h).mp hm)) ?_
    rw [decodeAt?_append hc ext h, hd]

/-- Two sweeps stay together as long as the turns have all the bytes they may look at. -/
theorem Walk.settled_isPrefix (hc : 0 < c.arm64Window) {ext : List UInt8} {ss ts : List Step}
    (hs : Walk c arch code base k ss) (ht : Walk c arch (code ++ ext) base k ts) :
    ss.filter (·.offset + reach c arch ≤ code.length) <+: ts := by
  induction hs generalizing ts with
  | done _ => exact List.nil_prefix
  | @turn k s ss hroom hturn hrest ih =>
    by_cases hreach : k + reach c arch ≤ code.length
    · have hkept : s.offset + reach c arch ≤ code.length := by
        rw [hturn.offset_eq]
        exact hreach
      rw [List.filter_cons_of_pos (by simpa using hkept)]
      cases ht with
      | done hno => exact absurd (hroom.append ext) hno
      | turn _ hturn' hrest' =>
        have heq := (hturn.append hc ext hreach).deterministic hturn'
        subst heq
        exact List.cons_prefix_cons.mpr ⟨rfl, ih hrest'⟩
    · -- the later turns stand still nearer to the end
      have hnone : (s :: ss).filter (·.offset + reach c arch ≤ code.length) = [] := by
        rw [List.filter_eq_nil_iff]
        intro t ht'
        have hle := (Walk.turn hroom hturn hrest).le_offset ht'
        simp only [decide_eq_true_eq]
        omega
      rw [hnone]
      exact List.nil_prefix

/-- On A64 every step of a sweep has all the bytes it may look at. -/
theorem steps_settled_arm64 (dec : Decoder) :
    (steps dec.config .arm64 code base).filter (·.offset + reach dec.config .arm64 ≤ code.length) =
      steps dec.config .arm64 code base := by
  rw [List.filter_eq_self]
  intro s hs
  exact decide_eq_true (step_turn hs).1

end Sweep

theorem Prologue.scan_isPrefix (arch : Arch) (preserved : List String) {rs rs' : List Reading}
    (h : rs <+: rs') : scan arch preserved rs <+: scan arch preserved rs' := by
  obtain ⟨later, rfl⟩ := h
  rw [scan_eq_collect, scan_eq_collect, Reading.collect_append]
  exact List.prefix_append _ _

theorem CallSite.edges_isPrefix (arch : Arch) {rs rs' : List Reading} (h : rs <+: rs') :
    edges arch rs <+: edges arch rs' := by
  obtain ⟨later, rfl⟩ := h
  rw [edges_append]
  exact List.prefix_append _ _

/-- **Further bytes change nothing that was settled.** On A64 the steps, the prologues and the call
sites of a region begin with those of any first part of it. On x86-64 this holds of the steps that
have fifteen bytes up to the end of the first part, and of what is found at these steps. -/
theorem Toolbox.append_keeps_settled (dec : Decoder) {tag : String} {arch : Arch}
    (htag : Arch.parse? tag = some arch) (code ext : List UInt8) (base : Int) :
    let ss := Sweep.steps dec.config arch code base
    ∃ ps es, (detectPrologues dec.tools (code ++ ext) base tag).outcome.1 = .ok ps ∧
      (detectCallSites dec.tools (code ++ ext) base tag).outcome.1 = .ok es ∧
      match arch with
      | .amd64 =>
        let settled := ss.filter (·.offset + 15 ≤ code.length)
        settled <+: Sweep.steps dec.config .amd64 (code ++ ext) base ∧
        Prologue.scan .amd64 (Arch.calleeSaved .amd64) (settled.map (·.reading)) <+: ps ∧
        ∃ es', CallSite.scan dec.config .amd64 (settled.map (·.reading)) = .ok es' ∧ es' <+: es
      | .arm64 =>
        ss <+: Sweep.steps dec.config .arm64 (code ++ ext) base ∧
        ∃ ps' es', (detectPrologues dec.tools code base tag).outcome.1 = .ok ps' ∧
          (detectCallSites dec.tools code base tag).outcome.1 = .ok es' ∧ ps' <+: ps ∧ es' <+: es := by
  intro ss
  refine ⟨_, _, (detectPrologues_returns htag _ _).outcome,
    (detectCallSites_returns htag _ _).outcome, ?_⟩
  have hc : 0 < dec.config.arm64Window := Nat.succ_pos 3
  have hsteps : ss.filter (·.offset + Sweep.reach dec.config arch ≤ code.length) <+:
      Sweep.steps dec.config arch (code ++ ext) base :=
    (Sweep.steps_walk hc).settled_isPrefix hc (Sweep.steps_walk hc)
  have hreadings := hsteps.map (·.reading)
  have hprologues := Prologue.scan_isPrefix arch arch.calleeSaved hreadings
  have hedges := CallSite.edges_isPrefix arch hreadings
  cases arch with
  | amd64 => exact ⟨hsteps, hprologues, _, CallSite.scan_eq_edges _ _, hedges⟩
  | arm64 =>
    have hall : ss.filter (·.offset + Sweep.reach dec.config .arm64 ≤ code.length) = ss :=
      Sweep.steps_settled_arm64 dec
    rw [hall] at hsteps hprologues hedges
    exact ⟨hsteps, _, _, (detectPrologues_returns htag _ _).outcome,
      (detectCallSites_returns htag _ _).outcome, hprologues, hedges⟩

/-- A frame is set up, and the last byte begins a call that is cut off. With the rest of the call
the last step becomes another one, and the prologues at the first two stay. -/
theorem Toolbox.append_keeps_settled_before_call :
    let code : List UInt8 := [0x55, 0x48, 0x89, 0xe5] ++ List.replicate 11 0x90 ++ [0xe8]
    let ext : List UInt8 := [0, 0, 0, 0]
    let cut : Step := ⟨15, 0x100f, 1, .failed⟩
    cut ∈ Sweep.steps {} .amd64 code 0x1000 ∧ cut ∉ Sweep.steps {} .amd64 (code ++ ext) 0x1000 ∧
      ∃ ps, (detectPrologues {} (code ++ ext) 0x1000 "x64").outcome.1 = .ok ps ∧
        [⟨0x1000, .pushOnly, "push rbp"⟩, ⟨0x1000, .classic, "push rbp; mov rbp, rsp"⟩] <+: ps := by
  intro code ext cut
  have htag : Arch.parse? "x64" = some .amd64 := by decide
  obtain ⟨ps, _, hps, _, _, hprologues, _⟩ := append_keeps_settled .standard htag code ext 0x1000
  refine ⟨by decide +kernel, by decide +kernel, ps, hps, ?_⟩
  have hfound : Prologue.scan .amd64 (Arch.calleeSaved .amd64)
      (((Sweep.steps {} .amd64 code 0x1000).filter (·.offset + 15 ≤ code.length)).map (·.reading)) =
      [⟨0x1000, .pushOnly, "push rbp"⟩, ⟨0x1000, .classic, "push rbp; mov rbp, rsp"⟩] := by
    decide +kernel
  rw [hfound] at hprologues
  exact hprologues

end EntryScan
