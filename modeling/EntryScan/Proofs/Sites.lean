import EntryScan.Proofs.RecordOrder

/-!
# EntryScan.Proofs.Sites

Where the records of a scan stand in a succession of readings, and that each stands there once.

* `ListsInOrder R xs`: the list holds what `R` says of the positions, in their order and nothing
  twice. No other list does.
* `Reading.surveyFrom`: a pass in which an instruction sees its look-behind and all that comes after
  it. A scan that only looks behind is one (`collectFrom_eq_surveyFrom`).
* `Arm64.collectFrom_eq_owed_append`: a frame store is told apart one instruction late. What that
  instruction completes is what the store was owed, so the scan is also a survey in which every
  record stands at its anchor.

`Prologue.scan_amd64_exact` and `Prologue.scan_arm64_exact` say what the scans return for all
readings.
-/

namespace EntryScan

/-! ## Lists by position -/

/-- The list holds what the relation says of the positions, in their order and each once. -/
def ListsInOrder {α : Type} (R : Nat → α → Prop) (xs : List α) : Prop :=
  ∃ sites : List (Nat × α), xs = sites.map (·.2) ∧ sites.Pairwise (fun s t => s.1 < t.1) ∧
    ∀ k x, (k, x) ∈ sites ↔ R k x

namespace ListsInOrder

variable {α : Type} {R : Nat → α → Prop}

theorem nil (h : ∀ k x, ¬ R k x) : ListsInOrder R [] := by
  refine ⟨[], rfl, .nil, ?_⟩
  intro k x
  simp [h k x]

/-- One record at most at the first position, and the rest one position on. -/
theorem cons {first rest : List α} (hone : first.length ≤ 1) (hfirst : ∀ x, x ∈ first ↔ R 0 x)
    (hrest : ListsInOrder (fun k => R (k + 1)) rest) : ListsInOrder R (first ++ rest) := by
  obtain ⟨sites, rfl, hascend, hmem⟩ := hrest
  refine ⟨first.map (fun x => (0, x)) ++ sites.map (fun s => (s.1 + 1, s.2)), ?_, ?_, ?_⟩
  · simp [List.map_map, Function.comp_def]
  · refine List.pairwise_append.mpr ⟨?_, ?_, ?_⟩
    · match first, hone with
      | [], _ => exact .nil
      | [x], _ => exact List.pairwise_singleton _ _
    · rw [List.pairwise_map]
      exact hascend.imp fun h => by omega
    · intro s hs t ht
      obtain ⟨x, -, rfl⟩ := List.mem_map.mp hs
      obtain ⟨t, -, rfl⟩ := List.mem_map.mp ht
      exact Nat.succ_pos _
  · intro k x
    cases k with
    | zero => simp [hfirst]
    | succ k => simp [← hmem]

theorem unique {xs ys : List α} (hx : ListsInOrder R xs) (hy : ListsInOrder R ys) : xs = ys := by
  obtain ⟨sites, rfl, hascend, hmem⟩ := hx
  obtain ⟨sites', rfl, hascend', hmem'⟩ := hy
  have hne : ∀ {s t : Nat × α}, s.1 < t.1 → s ≠ t := by
    rintro s _ hlt rfl
    exact absurd hlt (Nat.lt_irrefl _)
  have hperm : sites.Perm sites' := by
    refine (List.perm_ext_iff_of_nodup (hascend.imp hne) (hascend'.imp hne)).mpr ?_
    rintro ⟨k, x⟩
    rw [hmem, hmem']
  have heq : sites = sites' :=
    hperm.eq_of_pairwise (fun s t _ _ hlt hgt => absurd hlt (Nat.lt_asymm hgt)) hascend hascend'
  rw [heq]

end ListsInOrder

/-! ## Passes with a view ahead -/

namespace Reading

/-- The look-ahead before later readings: the first of them that is no marker decides, and a failed
one leaves nothing. -/
def lookahead (later : List Reading) : Option Instruction :=
  match (later.filter (· ≠ .marker)).head? with
  | some (.insn i) => some i
  | _ => none

/-- Collects what `view` makes of each instruction, its look-behind and all that comes after it. -/
def surveyFrom {α : Type} (view : Option Instruction → Instruction → List Reading → List α) :
    Option Instruction → List Reading → List α
  | _, [] => []
  | previous, r :: rs =>
    visited (fun previous i => view previous i rs) previous r ++
      surveyFrom view (lookbehindFrom previous [r]) rs

theorem collectFrom_eq_surveyFrom {α : Type} (visit : Option Instruction → Instruction → List α)
    (rs : List Reading) : ∀ previous, collectFrom visit previous rs =
      surveyFrom (fun previous i _ => visit previous i) previous rs := by
  induction rs with
  | nil =>
    intro previous
    rfl
  | cons r rs ih =>
    intro previous
    rw [collectFrom_cons, surveyFrom, ih]

/-- By induction on the readings: the first one stands at position 0, and the others see the
look-behind that it leaves. -/
theorem surveyFrom_lists {α : Type} {view : Option Instruction → Instruction → List Reading → List α}
    (hone : ∀ previous i later, (view previous i later).length ≤ 1) (rs : List Reading) :
    ∀ previous, ListsInOrder (fun k x => ∃ i, rs[k]? = some (.insn i) ∧
      x ∈ view (lookbehindFrom previous (rs.take k)) i (rs.drop (k + 1)))
      (surveyFrom view previous rs) := by
  induction rs with
  | nil =>
    intro previous
    exact .nil fun k x => by simp
  | cons r rs ih =>
    intro previous
    refine .cons ?_ ?_ ?_
    · cases r with
      | failed => exact Nat.zero_le 1
      | marker => exact Nat.zero_le 1
      | insn i => exact hone previous i rs
    · intro x
      cases r with
      | failed => simp [visited]
      | marker => simp [visited]
      | insn i => simp [visited, lookbehindFrom]
    · have hrest := ih (lookbehindFrom previous [r])
      simpa only [← lookbehindFrom_cons, List.getElem?_cons_succ, List.take_succ_cons,
        List.drop_succ_cons] using hrest

end Reading

/-! ## x86-64 -/

theorem Prologue.length_completed_le (arch : Arch) (previous : Option Instruction)
    (i : Instruction) : (completed arch arch.calleeSaved previous i).length ≤ 1 := by
  have hnone : (completed arch arch.calleeSaved previous i).Pairwise fun _ _ => False :=
    completed_pairwise _
  match completed arch arch.calleeSaved previous i, hnone with
  | [], _ => simp
  | [p], _ => simp
  | p :: q :: _, hnone => exact ((List.pairwise_cons.mp hnone).1 q List.mem_cons_self).elim

/-- **The scan of x86-64 code returns the declared patterns.** At each position that holds an
instruction stands what the rules of `Matches` make of it and of its look-behind, which is the last
reading before it that is no marker, if that is an instruction. The scan returns these records in
the order of the positions, each once, and nothing else: it is the one list that does. -/
theorem Prologue.scan_amd64_exact (rs : List Reading) (found : List Prologue) :
    scan .amd64 (Arch.calleeSaved .amd64) rs = found ↔
      ListsInOrder (fun k q => ∃ i kind, rs[k]? = some (.insn i) ∧
        Records .amd64 (Reading.lookbehind (rs.take k)) i kind q) found := by
  have hlists : ListsInOrder (fun k q => ∃ i kind, rs[k]? = some (.insn i) ∧
      Records .amd64 (Reading.lookbehind (rs.take k)) i kind q)
      (scan .amd64 (Arch.calleeSaved .amd64) rs) := by
    rw [scan_eq_collect, Reading.collect, Reading.collectFrom_eq_surveyFrom]
    have hsurvey := Reading.surveyFrom_lists
      (fun previous i _ => length_completed_le .amd64 previous i) rs none
    simpa only [mem_completed, exists_and_left, Reading.lookbehind] using hsurvey
  constructor
  · rintro rfl
    exact hlists
  · exact hlists.unique

/-! ## A64 -/

namespace Arm64

/-- What is still owed to a look-behind before later readings: its record, if it is a frame store
and an instruction comes next. -/
def owed (previous : Option Instruction) (later : List Reading) : List Prologue :=
  match Reading.lookahead later with
  | some next => (frame? previous next).toList
  | none => []

/-- What stands at an instruction itself. -/
def own (previous : Option Instruction) (i : Instruction) : List Prologue :=
  (strLr? previous i).toList ++ (subSp? previous i).toList

/-- What is anchored at an instruction. -/
def anchoredAt (previous : Option Instruction) (i : Instruction) (later : List Reading) :
    List Prologue :=
  own previous i ++ owed (some i) later

theorem prologuesAt_eq (previous : Option Instruction) (i : Instruction) :
    prologuesAt previous i = (frame? previous i).toList ++ own previous i := by
  unfold prologuesAt own
  cases frame? previous i <;> cases strLr? previous i <;> cases subSp? previous i <;> rfl

theorem owed_insn (previous : Option Instruction) (i : Instruction) (later : List Reading) :
    owed previous (.insn i :: later) = (frame? previous i).toList := by
  simp [owed, Reading.lookahead]

theorem owed_marker (previous : Option Instruction) (later : List Reading) :
    owed previous (.marker :: later) = owed previous later := by
  simp [owed, Reading.lookahead]

theorem owed_failed (previous : Option Instruction) (later : List Reading) :
    owed previous (.failed :: later) = [] := by
  simp [owed, Reading.lookahead]

theorem owed_none (later : List Reading) : owed none later = [] := by
  unfold owed
  split <;> rfl

/-- A pass first pays what is owed to its look-behind. After that every record is anchored at the
instruction where it stands. -/
theorem collectFrom_eq_owed_append (rs : List Reading) :
    ∀ previous, Reading.collectFrom prologuesAt previous rs =
      owed previous rs ++ Reading.surveyFrom anchoredAt previous rs := by
  induction rs with
  | nil =>
    intro previous
    rfl
  | cons r rs ih =>
    intro previous
    cases r with
    | marker =>
      rw [Reading.collectFrom, ih, owed_marker]
      rfl
    | failed =>
      rw [Reading.collectFrom, ih, owed_failed, owed_none]
      rfl
    | insn i =>
      rw [Reading.collectFrom, ih, owed_insn, prologuesAt_eq]
      simp [Reading.surveyFrom, Reading.visited, Reading.lookbehindFrom, anchoredAt]

end Arm64

namespace Instruction

/-- `str x30, [sp, #-N]!`. -/
def IsLinkStore (i : Instruction) : Prop :=
  i.operation = "STR" ∧ i.operand? 0 = some (.reg "x30") ∧ i.LowersStack 1

/-- `sub sp, sp, …`. -/
def IsStackSub (i : Instruction) : Prop :=
  i.operation = "SUB" ∧ i.operand? 0 = some (.reg "sp") ∧ i.operand? 1 = some (.reg "sp")

end Instruction

namespace Arm64

/-- The record of a frame store before an instruction. -/
def FrameRecord (store next : Instruction) (q : Prologue) : Prop :=
  next.IsFrameMove ∧
      q = .anchored store.address .stpFramePair (store.text ++ "; " ++ next.text) ∨
    ¬ next.IsFrameMove ∧ q = .anchored store.address .stpOnly store.text

variable {previous : Option Instruction} {i : Instruction} {later : List Reading} {q : Prologue}

theorem strLr?_eq_some :
    strLr? previous i = some q ↔
      i.IsLinkStore ∧ AtBoundary previous ∧ q = .anchored i.address .strLrPreindex i.text := by
  rw [strLr?_eq_some_iff]
  constructor
  · rintro ⟨anchor, text, hm, rfl⟩
    cases hm with
    | strLrPreindex hstr hlr hlower hplace => exact ⟨⟨hstr, hlr, hlower⟩, hplace, rfl⟩
  · rintro ⟨⟨hstr, hlr, hlower⟩, hplace, rfl⟩
    exact ⟨i, _, .strLrPreindex hstr hlr hlower hplace, rfl⟩

theorem subSp?_eq_some :
    subSp? previous i = some q ↔
      i.IsStackSub ∧ AtBoundary previous ∧ q = .anchored i.address .subSp i.text := by
  rw [subSp?_eq_some_iff]
  constructor
  · rintro ⟨anchor, text, hm, rfl⟩
    cases hm with
    | subSp hsub h0 h1 hplace => exact ⟨⟨hsub, h0, h1⟩, hplace, rfl⟩
  · rintro ⟨⟨hsub, h0, h1⟩, hplace, rfl⟩
    exact ⟨i, _, .subSp hsub h0 h1 hplace, rfl⟩

theorem frame?_eq_some {store next : Instruction} :
    frame? (some store) next = some q ↔ store.IsFrameStore ∧ FrameRecord store next q := by
  rw [frame?_eq_some_iff]
  constructor
  · rintro (⟨anchor, text, hm, rfl⟩ | ⟨anchor, text, hm, rfl⟩)
    · cases hm with
      | stpFramePair hstore hmove => exact ⟨hstore, .inl ⟨hmove, rfl⟩⟩
    · cases hm with
      | stpOnly hstore hmove => exact ⟨hstore, .inr ⟨hmove, rfl⟩⟩
  · rintro ⟨hstore, ⟨hmove, rfl⟩ | ⟨hmove, rfl⟩⟩
    · exact .inl ⟨store, _, .stpFramePair hstore hmove, rfl⟩
    · exact .inr ⟨store, _, .stpOnly hstore hmove, rfl⟩

theorem mem_owed :
    q ∈ owed (some i) later ↔
      i.IsFrameStore ∧ ∃ next, Reading.lookahead later = some next ∧ FrameRecord i next q := by
  unfold owed
  cases Reading.lookahead later with
  | none => simp
  | some next => simp [frame?_eq_some]

theorem mem_own :
    q ∈ own previous i ↔
      i.IsLinkStore ∧ AtBoundary previous ∧ q = .anchored i.address .strLrPreindex i.text ∨
      i.IsStackSub ∧ AtBoundary previous ∧ q = .anchored i.address .subSp i.text := by
  simp [own, strLr?_eq_some, subSp?_eq_some]

theorem owed_eq_nil (h : i.operation ≠ "STP") : owed (some i) later = [] := by
  apply List.eq_nil_iff_forall_not_mem.mpr
  intro q hq
  exact h (mem_owed.mp hq).1.1

theorem strLr?_eq_none (h : i.operation ≠ "STR") : strLr? previous i = none := by
  simp [strLr?, h]

theorem subSp?_eq_none (h : i.operation ≠ "SUB") : subSp? previous i = none := by
  simp [subSp?, h]

/-- The operations of the patterns exclude each other, so one record at most is anchored at an
instruction. -/
theorem length_anchoredAt_le (previous : Option Instruction) (i : Instruction)
    (later : List Reading) : (anchoredAt previous i later).length ≤ 1 := by
  have hlist (o : Option Prologue) : o.toList.length ≤ 1 := by cases o <;> simp
  unfold anchoredAt own
  by_cases hstp : i.operation = "STP"
  · rw [strLr?_eq_none (by simp [hstp]), subSp?_eq_none (by simp [hstp])]
    unfold owed
    split
    · exact hlist _
    · exact Nat.zero_le 1
  · rw [owed_eq_nil hstp, List.append_nil]
    by_cases hstr : i.operation = "STR"
    · rw [subSp?_eq_none (by simp [hstr]), Option.toList_none, List.append_nil]
      exact hlist _
    · rw [strLr?_eq_none hstr]
      exact hlist _

end Arm64

/-- **The scan of A64 code returns the declared patterns.** Every record stands at the position of
the instruction that it is anchored at, and the scan returns the records in the order of these
positions.

* A frame store has one record if the next reading that is no marker is an instruction, which tells
  the kind, and none before a failed reading or at the end.
* A store of the link register and a `sub sp, sp` have one record exactly at a boundary.
* No other instruction has a record. -/
theorem Prologue.scan_arm64_exact (preserved : List String) (rs : List Reading) :
    ∃ sites : List (Nat × Prologue), scan .arm64 preserved rs = sites.map (·.2) ∧
      sites.Pairwise (fun s t => s.1 < t.1) ∧
      (∀ k i, rs[k]? = some (.insn i) → i.IsFrameStore → ∀ q, (k, q) ∈ sites ↔
        ∃ next, Reading.lookahead (rs.drop (k + 1)) = some next ∧ Arm64.FrameRecord i next q) ∧
      (∀ k i, rs[k]? = some (.insn i) → i.IsLinkStore → ∀ q, (k, q) ∈ sites ↔
        AtBoundary (Reading.lookbehind (rs.take k)) ∧
          q = .anchored i.address .strLrPreindex i.text) ∧
      (∀ k i, rs[k]? = some (.insn i) → i.IsStackSub → ∀ q, (k, q) ∈ sites ↔
        AtBoundary (Reading.lookbehind (rs.take k)) ∧ q = .anchored i.address .subSp i.text) ∧
      ∀ k q, (k, q) ∈ sites → ∃ i, rs[k]? = some (.insn i) ∧
        (i.IsFrameStore ∨ i.IsLinkStore ∨ i.IsStackSub) := by
  have hscan : scan .arm64 preserved rs = Reading.surveyFrom Arm64.anchoredAt none rs := by
    rw [scan, Reading.collect, Arm64.collectFrom_eq_owed_append, Arm64.owed_none, List.nil_append]
  obtain ⟨sites, hsites, hascend, hmem⟩ :=
    Reading.surveyFrom_lists Arm64.length_anchoredAt_le rs none
  have hat {k : Nat} {i : Instruction} (hi : rs[k]? = some (.insn i)) (q : Prologue) :
      (k, q) ∈ sites ↔
        q ∈ Arm64.own (Reading.lookbehind (rs.take k)) i ∨
          q ∈ Arm64.owed (some i) (rs.drop (k + 1)) := by
    rw [hmem, ← List.mem_append]
    simp [hi, Arm64.anchoredAt, Reading.lookbehind]
  refine ⟨sites, hscan.trans hsites, hascend, ?_, ?_, ?_, ?_⟩
  · intro k i hi hstore q
    have hnot : ¬ q ∈ Arm64.own (Reading.lookbehind (rs.take k)) i := by
      rw [Arm64.mem_own]
      rintro (⟨hlink, -⟩ | ⟨hsub, -⟩)
      · exact absurd (hstore.1.symm.trans hlink.1) (by decide)
      · exact absurd (hstore.1.symm.trans hsub.1) (by decide)
    rw [hat hi, Arm64.mem_owed]
    simp [hnot, hstore]
  · intro k i hi hlink q
    have hsub : ¬ i.IsStackSub := fun hsub => absurd (hlink.1.symm.trans hsub.1) (by decide)
    rw [hat hi, Arm64.mem_own, Arm64.owed_eq_nil (by simp [hlink.1])]
    simp [hlink, hsub]
  · intro k i hi hsub q
    have hlink : ¬ i.IsLinkStore := fun hlink => absurd (hsub.1.symm.trans hlink.1) (by decide)
    rw [hat hi, Arm64.mem_own, Arm64.owed_eq_nil (by simp [hsub.1])]
    simp [hlink, hsub]
  · intro k q hq
    obtain ⟨i, hi, -⟩ := (hmem k q).mp hq
    refine ⟨i, hi, ?_⟩
    rcases (hat hi q).mp hq with hown | howed
    · rcases Arm64.mem_own.mp hown with ⟨hlink, -⟩ | ⟨hsub, -⟩
      · exact .inr (.inl hlink)
      · exact .inr (.inr hsub)
    · exact .inl (Arm64.mem_owed.mp howed).1

/-- A frame store whose frame is set up behind a marker, and one before a failed reading. -/
theorem Prologue.scan_arm64_exact_before_failed :
    let store (address : Int) : Instruction :=
      ⟨address, "STP", "stp", "x29, x30, [sp, #-0x10]!",
        [.reg "x29", .reg "x30", .mem (some "sp") (-16)]⟩
    let move : Instruction := ⟨8, "MOV", "mov", "x29, sp", [.reg "x29", .reg "sp"]⟩
    ∃ sites : List (Nat × Prologue),
      scan .arm64 [] [.insn (store 0), .marker, .insn move, .insn (store 12), .failed] =
        sites.map (·.2) ∧
      (0, ⟨0, .stpFramePair, "stp x29, x30, [sp, #-0x10]!; mov x29, sp"⟩) ∈ sites ∧
      ∀ q, (3, q) ∉ sites := by
  intro store move
  have hmark : "x29, x30, [sp, #-0x10]!".toList = "x29, x30, [sp, #-0x10]".toList ++ ['!'] := by
    decide
  have hstore (address : Int) : (store address).IsFrameStore :=
    ⟨rfl, rfl, rfl, -16, rfl, by decide, _, [], hmark, by simp⟩
  have hmove : move.IsFrameMove := .inl ⟨rfl, rfl⟩
  obtain ⟨sites, hscan, -, hframes, -⟩ := scan_arm64_exact []
    [.insn (store 0), .marker, .insn move, .insn (store 12), .failed]
  refine ⟨sites, hscan, ?_, ?_⟩
  · refine (hframes 0 (store 0) rfl (hstore 0) _).mpr ⟨move, by decide, .inl ⟨hmove, ?_⟩⟩
    decide
  · intro q hq
    obtain ⟨next, hnext, -⟩ := (hframes 3 (store 12) rfl (hstore 12) q).mp hq
    have hnone : Reading.lookahead [.failed] = none := by decide
    cases hnone.symm.trans hnext

end EntryScan
