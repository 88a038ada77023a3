import EntryScan.Proofs.Assembly
import EntryScan.Proofs.Restart

/-!
# EntryScan.Proofs.Markers

Markers are invisible to detection. A sweep looks for a marker before it decodes, so that the
instruction which a marker also is never becomes the look-behind of another one.

* `Detector.find_unmarked`: whatever a detector looks for, it finds the same without the markers.
* `Sweep.readings_marker`, `Sweep.readings_markers`: markers before code are read as markers, and the
  code behind them as it is on its own.
-/

namespace EntryScan

/-! ## Passes over readings -/

namespace Reading

/-- The readings without the markers. -/
def unmarked (rs : List Reading) : List Reading := rs.filter (· ≠ .marker)

@[simp] theorem unmarked_marker (rs : List Reading) : unmarked (.marker :: rs) = unmarked rs := by
  simp [unmarked]

theorem unmarked_cons {r : Reading} (h : r ≠ .marker) (rs : List Reading) :
    unmarked (r :: rs) = r :: unmarked rs := by
  simp [unmarked, h]

/-- By induction on the readings, for every look-behind: a marker hands it on as it is. -/
theorem collectFrom_unmarked {α : Type} (visit : Option Instruction → Instruction → List α)
    (rs : List Reading) :
    ∀ previous, collectFrom visit previous (unmarked rs) = collectFrom visit previous rs := by
  induction rs with
  | nil => intro previous; rfl
  | cons r rs ih =>
    intro previous
    by_cases hr : r = .marker
    · subst hr
      rw [unmarked_marker, ih, collectFrom]
    · rw [unmarked_cons hr, collectFrom_cons, collectFrom_cons, ih]

theorem gatherFrom_unmarked {α : Type}
    (visit : Option Instruction → Instruction → List α → List α) (rs : List Reading) :
    ∀ previous found,
      gatherFrom visit previous found (unmarked rs) = gatherFrom visit previous found rs := by
  induction rs with
  | nil => intro previous found; rfl
  | cons r rs ih =>
    intro previous found
    cases r with
    | marker => rw [unmarked_marker, ih, gatherFrom]
    | failed => rw [unmarked_cons (by simp), gatherFrom, gatherFrom, ih]
    | insn i => rw [unmarked_cons (by simp), gatherFrom, gatherFrom, ih]

theorem instructions_unmarked (rs : List Reading) :
    instructions (unmarked rs) = instructions rs := by
  induction rs with
  | nil => rfl
  | cons r rs ih =>
    cases r with
    | marker => rw [unmarked_marker, ih]; rfl
    | failed => rw [unmarked_cons (by simp)]; exact ih
    | insn i => rw [unmarked_cons (by simp)]; exact congrArg (i :: ·) ih

theorem unmarked_replicate_append (n : Nat) (rs : List Reading) :
    unmarked (List.replicate n .marker ++ rs) = unmarked rs := by
  induction n with
  | zero => rfl
  | succ n ih => rw [List.replicate_succ, List.cons_append, unmarked_marker, ih]

end Reading

theorem Prologue.scan_unmarked (arch : Arch) (preserved : List String) (rs : List Reading) :
    scan arch preserved (Reading.unmarked rs) = scan arch preserved rs := by
  rw [scan_eq_collect, scan_eq_collect]
  exact Reading.collectFrom_unmarked _ rs none

theorem CallSite.branches_unmarked (arch : Arch) (rs : List Reading) :
    branches arch (Reading.unmarked rs) = branches arch rs := by
  rw [branches, branches, Reading.instructions_unmarked]

theorem CallSite.edges_unmarked (arch : Arch) (rs : List Reading) :
    edges arch (Reading.unmarked rs) = edges arch rs := by
  rw [edges, edges, branches_unmarked]

namespace Detector

theorem prologues_unmarked (c : Config) (d : Detector) (rs : List Reading) :
    d.prologues c (Reading.unmarked rs) = d.prologues c rs := by
  unfold prologues
  split
  · exact Reading.gatherFrom_unmarked _ rs _ _
  · exact Prologue.scan_unmarked _ _ rs

theorem callSites_unmarked (c : Config) (d : Detector) (rs : List Reading) :
    d.callSites c (Reading.unmarked rs) = d.callSites c rs := by
  unfold callSites
  split
  · rw [Reading.gatherFrom_unmarked]
  · rw [CallSite.scan, CallSite.scan, CallSite.branches_unmarked]

theorem find_unmarked (c : Config) (d : Detector) (rs : List Reading) :
    d.find c (Reading.unmarked rs) = d.find c rs := by
  unfold find
  cases d.pursuit with
  | prologues => rw [prologues_unmarked]
  | callSites => rw [callSites_unmarked]

/-- A scan of code finds what stands in the readings of the sweep over it. -/
theorem scan_outcome (c : Config) (d : Detector) (code : List UInt8) (base : Int) :
    (d.scan c code base).outcome.1 = d.find c (Sweep.readings c d.arch code base) := by
  unfold scan find
  cases d.pursuit with
  | prologues =>
    have hscan := returns_scanPrologues c d code base
    exact (Logged.Returns.bind hscan (Logged.returns_pure (Findings.prologues _))).outcome
  | callSites =>
    dsimp only
    cases hfound : d.callSites c (Sweep.readings c d.arch code base) with
    | ok found =>
      exact (Logged.Returns.bind (returns_scanCallSites hfound)
        (Logged.returns_pure (Findings.callSites _))).outcome
    | error f =>
      -- the sweep is stopped before anything is recorded
      unfold scanCallSites
      dsimp only
      rw [← Sweep.readings, hfound]
      rfl

end Detector

/-! ## Markers before code -/

namespace Sweep

variable {c : Config} {m : List UInt8}

theorem readFront_marker (hm : m ∈ c.markers) (hfour : m.length = 4) (rest : List UInt8)
    (address : Int) : readFront c .amd64 (m ++ rest) address = (.marker, m.length) := by
  have hfront : atMarker c .amd64 (m ++ rest) = true := by
    simp only [atMarker, decide_true, Bool.true_and, Bool.and_eq_true, List.contains_iff_mem,
      List.take_left' hfour, hm, and_true, Bool.not_eq_true', ← Bool.not_eq_true,
      Bytes.fewerThan_iff, List.length_append]
    omega
  rw [readFront, if_pos hfront, hfour]

theorem readings_marker (hc : 0 < c.arm64Window) (hm : m ∈ c.markers) (hfour : m.length = 4)
    (code : List UInt8) (base : Int) :
    readings c .amd64 (m ++ code) base = .marker :: readings c .amd64 code (base + 4) := by
  have hroom : needed c .amd64 ≤ m.length := by
    rw [hfour]
    exact Nat.succ_pos 3
  have hshift : stepsFrom c .amd64 base (0 + 4) code =
      (stepsFrom c .amd64 (base + (4 : Nat)) 0 code).map (·.shift 4) := stepsFrom_shift 4 0 code
  rw [readings, steps, stepsFrom_append hc hroom (readFront_marker hm hfour code _), hfour, hshift,
    List.map_cons, List.map_map]
  rfl

/-- By induction on the markers: each moves the rest on by its four bytes. -/
theorem readings_markers (hc : 0 < c.arm64Window) (code : List UInt8) (ms : List (List UInt8)) :
    ∀ base : Int, (∀ m ∈ ms, m ∈ c.markers ∧ m.length = 4) →
      readings c .amd64 (ms.flatten ++ code) base =
        List.replicate ms.length .marker ++ readings c .amd64 code (base + 4 * ms.length) := by
  induction ms with
  | nil =>
    intro base _
    simp
  | cons m ms ih =>
    intro base hms
    obtain ⟨hm, hfour⟩ := hms m List.mem_cons_self
    have hrest := ih (base + 4) fun m' hm' => hms m' (List.mem_cons_of_mem m hm')
    have hbase : base + 4 + 4 * (ms.length : Int) = base + 4 * ((m :: ms).length : Int) := by
      rw [List.length_cons]
      omega
    rw [List.flatten_cons, List.append_assoc, readings_marker hc hm hfour, hrest, hbase,
      List.length_cons, List.replicate_succ, List.cons_append]

end Sweep

/-- **Markers are invisible.** Every detector finds in a succession of steps what it finds when the
markers among them are deleted, wherever they stand; a scan of code is such a search through the
steps of its sweep. Markers before x86-64 code change nothing but where the code stands: both scans
return what they return for the code alone, four bytes on for each marker. -/
theorem Toolbox.markers_invisible :
    (∀ (c : Config) (d : Detector) (ss : List Step),
      d.find c (ss.map (·.reading)) =
        d.find c ((ss.filter (·.reading ≠ .marker)).map (·.reading))) ∧
    (∀ (c : Config) (d : Detector) (code : List UInt8) (base : Int),
      (d.scan c code base).outcome.1 =
        d.find c (((Sweep.steps c d.arch code base).filter (·.reading ≠ .marker)).map
          (·.reading))) ∧
    ∀ (dec : Decoder) (tag : String), Arch.parse? tag = some .amd64 → ∀ ms : List (List UInt8),
      (∀ m ∈ ms, m = [0xf3, 0x0f, 0x1e, 0xfa] ∨ m = [0xf3, 0x0f, 0x1e, 0xfb]) →
      ∀ (code : List UInt8) (base : Int), ∃ ps es,
        (detectPrologues dec.tools (ms.flatten ++ code) base tag).outcome.1 = .ok ps ∧
        (detectPrologues dec.tools code (base + 4 * ms.length) tag).outcome.1 = .ok ps ∧
        (detectCallSites dec.tools (ms.flatten ++ code) base tag).outcome.1 = .ok es ∧
        (detectCallSites dec.tools code (base + 4 * ms.length) tag).outcome.1 = .ok es := by
  have hsteps (c : Config) (d : Detector) (ss : List Step) :
      d.find c (ss.map (·.reading)) =
        d.find c ((ss.filter (·.reading ≠ .marker)).map (·.reading)) := by
    rw [← Detector.find_unmarked, Reading.unmarked, List.filter_map]
    rfl
  refine ⟨hsteps, ?_, ?_⟩
  · intro c d code base
    rw [Detector.scan_outcome, Sweep.readings, hsteps]
  · intro dec tag htag ms hms code base
    have hmarkers : ∀ m ∈ ms, m ∈ dec.config.markers ∧ m.length = 4 := by
      intro m hm
      rcases hms m hm with rfl | rfl <;> simp
    have hreadings := Sweep.readings_markers (Nat.succ_pos 3) code ms base hmarkers
    refine ⟨_, _, (detectPrologues_returns htag _ _).outcome, ?_,
      (detectCallSites_returns htag _ _).outcome, ?_⟩
    · rw [hreadings, ← Prologue.scan_unmarked, Reading.unmarked_replicate_append,
        Prologue.scan_unmarked]
      exact (detectPrologues_returns htag _ _).outcome
    · rw [hreadings, ← CallSite.edges_unmarked, Reading.unmarked_replicate_append,
        CallSite.edges_unmarked]
      exact (detectCallSites_returns htag _ _).outcome

/-- Both markers before `push rbp; endbr64; mov rbp, rsp`, eight bytes below the top of the address
space: the push stands at zero, and the marker behind it does not keep the pattern apart. -/
theorem Toolbox.markers_invisible_across_top :
    let ms : List (List UInt8) := [[0xf3, 0x0f, 0x1e, 0xfa], [0xf3, 0x0f, 0x1e, 0xfb]]
    let code : List UInt8 := [0x55, 0xf3, 0x0f, 0x1e, 0xfa, 0x48, 0x89, 0xe5]
    let found : List Prologue :=
      [⟨0, .pushOnly, "push rbp"⟩, ⟨0, .classic, "push rbp; mov rbp, rsp"⟩]
    (detectPrologues {} (ms.flatten ++ code) (2 ^ 64 - 8) "amd64").outcome.1 = .ok found ∧
      (detectPrologues {} code (2 ^ 64 - 8 + 4 * ms.length) "amd64").outcome.1 = .ok found := by
  intro ms code found
  have htag : Arch.parse? "amd64" = some .amd64 := by decide
  have hms : ∀ m ∈ ms, m = [0xf3, 0x0f, 0x1e, 0xfa] ∨ m = [0xf3, 0x0f, 0x1e, 0xfb] := by decide
  obtain ⟨ps, _, hbehind, halone, _⟩ :=
    markers_invisible.2.2 .standard "amd64" htag ms hms code (2 ^ 64 - 8)
  have hfound : (detectPrologues {} code (2 ^ 64 - 8 + 4 * ms.length) "amd64").outcome.1 =
      .ok found := by
    rw [(detectPrologues_returns htag _ _).outcome]
    decide +kernel
  refine ⟨?_, hfound⟩
  rw [hbehind, ← halone, hfound]

end EntryScan
