import EntryScan.Proofs.Address
import EntryScan.Sweep

/-!
# EntryScan.Proofs.Walk

The sweep as a loop over offsets, and how its steps lie in the region.

* `Turn c arch code base k s`: one turn of the loop at offset `k`, in one of three ways, yields the
  step `s`.
* `Walk c arch code base k ss`: the loop, started at offset `k`, ends after the steps `ss`.
* `walk_iff`: the sweep is what the loop yields, so the loop ends on every region.

What holds of one turn is proved of `Turn`; what holds of all steps follows by induction on `Walk`.
`steps_tile` puts it together: the steps tile the region, on A64 up to its last whole word.
-/

namespace EntryScan

theorem Bytes.fewerThan_iff {n : Nat} {bs : List UInt8} :
    fewerThan n bs = true ↔ bs.length < n := by
  simp only [fewerThan, List.length_take, decide_eq_true_eq]
  omega

namespace Sweep

/-- Enough bytes are left at an offset for an instruction to be looked for. -/
def HasRoom (c : Config) (arch : Arch) (code : List UInt8) (k : Nat) : Prop :=
  k + needed c arch ≤ code.length

/-- One of the markers stands at an offset. -/
def MarkerAt (c : Config) (arch : Arch) (code : List UInt8) (k : Nat) : Prop :=
  arch = .amd64 ∧ k + 4 ≤ code.length ∧ (code.drop k).take 4 ∈ c.markers

/-- One turn of the loop: a marker is passed over, an instruction is taken, or the bytes do not
decode and a stride is passed over. -/
inductive Turn (c : Config) (arch : Arch) (code : List UInt8) (base : Int) (k : Nat) :
    Step → Prop where
  | marker : MarkerAt c arch code k →
      Turn c arch code base k ⟨k, Address.wrap (base + k), 4, .marker⟩
  | insn {d : Decoded} : ¬ MarkerAt c arch code k →
      decodeAt? c arch code k (Address.wrap (base + k)) = some d →
      Turn c arch code base k ⟨k, Address.wrap (base + k), d.size, .insn d.insn⟩
  | failed : ¬ MarkerAt c arch code k →
      decodeAt? c arch code k (Address.wrap (base + k)) = none →
      Turn c arch code base k ⟨k, Address.wrap (base + k), stride c arch, .failed⟩

/-- The loop: it ends where there is no room, and otherwise takes a turn and goes on behind it. -/
inductive Walk (c : Config) (arch : Arch) (code : List UInt8) (base : Int) :
    Nat → List Step → Prop where
  | done {k : Nat} : ¬ HasRoom c arch code k → Walk c arch code base k []
  | turn {k : Nat} {s : Step} {ss : List Step} : HasRoom c arch code k →
      Turn c arch code base k s → Walk c arch code base (k + s.size) ss →
      Walk c arch code base k (s :: ss)

variable {c : Config} {arch : Arch} {code : List UInt8} {base : Int} {k : Nat}

/-! ## One turn -/

theorem atMarker_iff : atMarker c arch (code.drop k) = true ↔ MarkerAt c arch code k := by
  simp only [atMarker, MarkerAt, Bool.and_eq_true, decide_eq_true_eq, Bool.not_eq_true',
    ← Bool.not_eq_true, Bytes.fewerThan_iff, List.length_drop, List.contains_iff_mem, and_assoc]
  constructor
  · rintro ⟨harch, hlength, hmem⟩
    refine ⟨harch, ?_, hmem⟩
    omega
  · rintro ⟨harch, hlength, hmem⟩
    refine ⟨harch, ?_, hmem⟩
    omega

/-- The front decodes exactly when enough bytes are left and their window decodes. -/
theorem decodeFront?_eq_some_iff {rest : List UInt8} {address : Int} {d : Decoded} :
    decodeFront? c arch rest address = some d ↔
      rest ≠ [] ∧ needed c arch ≤ rest.length ∧
        c.decoder.decode? arch (rest.take (windowSize c arch)) address = some d := by
  unfold decodeFront?
  constructor
  · intro h
    split at h
    · cases h
    · rename_i hroom
      simp only [Bool.or_eq_true, List.isEmpty_iff, Bytes.fewerThan_iff, not_or, Nat.not_lt]
        at hroom
      split at h
      · rename_i d' hd
        split at h
        · cases h
        · cases h
          exact ⟨hroom.1, hroom.2, hd⟩
      · cases h
  · rintro ⟨hne, hroom, hd⟩
    have hpos := (c.decoder.size_bounds hd).1
    have hbool : ¬(rest.isEmpty || Bytes.fewerThan (needed c arch) rest) = true := by
      simp only [Bool.or_eq_true, List.isEmpty_iff, Bytes.fewerThan_iff, not_or, Nat.not_lt]
      exact ⟨hne, hroom⟩
    rw [if_neg hbool, hd]
    exact if_neg (Nat.ne_of_gt hpos)

theorem decodeAt?_ofNat (address : Int) :
    decodeAt? c arch code k address = decodeFront? c arch (code.drop k) address := by
  rw [decodeAt?, if_neg (by omega), Int.toNat_natCast]

/-- What is read at the front of the bytes behind an offset is what a turn there yields. -/
theorem turn_readFront :
    Turn c arch code base k
      ⟨k, Address.wrap (base + k), (readFront c arch (code.drop k) (Address.wrap (base + k))).2,
        (readFront c arch (code.drop k) (Address.wrap (base + k))).1⟩ := by
  unfold readFront
  split
  · rename_i hmarker
    exact .marker (atMarker_iff.mp hmarker)
  · rename_i hmarker
    have hno : ¬ MarkerAt c arch code k := fun h => hmarker (atMarker_iff.mpr h)
    cases hd : decodeFront? c arch (code.drop k) (Address.wrap (base + k)) with
    | some d => exact .insn hno (by rw [decodeAt?_ofNat, hd])
    | none => exact .failed hno (by rw [decodeAt?_ofNat, hd])

/-- A turn yields one step only. -/
theorem Turn.deterministic {s t : Step} (hs : Turn c arch code base k s)
    (ht : Turn c arch code base k t) : s = t := by
  cases hs with
  | marker h =>
    cases ht with
    | marker _ => rfl
    | insn hno _ => exact absurd h hno
    | failed hno _ => exact absurd h hno
  | insn hno hd =>
    cases ht with
    | marker h => exact absurd h hno
    | insn _ hd' => rw [hd] at hd'; cases hd'; rfl
    | failed _ hd' => rw [hd] at hd'; cases hd'
  | failed hno hd =>
    cases ht with
    | marker h => exact absurd h hno
    | insn _ hd' => rw [hd] at hd'; cases hd'
    | failed _ _ => rfl

theorem Turn.offset_eq {s : Step} (h : Turn c arch code base k s) : s.offset = k := by
  cases h <;> rfl

theorem Turn.address_eq {s : Step} (h : Turn c arch code base k s) :
    s.address = Address.wrap (base + k) := by
  cases h <;> rfl

theorem needed_pos (arch : Arch) (hc : 0 < c.arm64Window) : 0 < needed c arch := by
  cases arch with
  | amd64 => exact Nat.one_pos
  | arm64 => exact hc

theorem stride_eq_needed : stride c arch = needed c arch := by
  cases arch <;> rfl

/-- A turn moves on, but not past the end of the region. -/
theorem Turn.size_bounds (hc : 0 < c.arm64Window) (hroom : HasRoom c arch code k) {s : Step}
    (h : Turn c arch code base k s) : 0 < s.size ∧ k + s.size ≤ code.length := by
  cases h with
  | marker hm => exact ⟨Nat.succ_pos 3, hm.2.1⟩
  | insn _ hd =>
    rw [decodeAt?_ofNat, decodeFront?_eq_some_iff] at hd
    obtain ⟨hne, _, hwindow⟩ := hd
    obtain ⟨hpos, hle⟩ := c.decoder.size_bounds hwindow
    have hleft : 0 < (code.drop k).length := List.length_pos_of_ne_nil hne
    rw [List.length_take, List.length_drop] at hle
    rw [List.length_drop] at hleft
    refine ⟨hpos, ?_⟩
    dsimp only
    omega
  | failed _ _ =>
    refine ⟨?_, ?_⟩
    · exact Nat.lt_of_lt_of_eq (needed_pos arch hc) stride_eq_needed.symm
    · dsimp only
      rw [stride_eq_needed]
      exact hroom

/-- The instruction of a turn stands where the turn was taken. -/
theorem Turn.insn_address {s : Step} {i : Instruction} (h : Turn c arch code base k s)
    (hi : s.reading = .insn i) : i.address = s.address := by
  cases h with
  | marker _ => cases hi
  | insn _ hd =>
    cases hi
    rw [decodeAt?_ofNat, decodeFront?_eq_some_iff] at hd
    rw [c.decoder.address_eq hd.2.2, Address.wrap_wrap]
  | failed _ _ => cases hi

/-! ## The whole loop -/

/-- The sweep behind an offset begins with a turn there. -/
theorem stepsFrom_turn (base : Int) (hc : 0 < c.arm64Window) (hroom : HasRoom c arch code k) :
    ∃ s, Turn c arch code base k s ∧
      stepsFrom c arch base k (code.drop k) =
        s :: stepsFrom c arch base (k + s.size) (code.drop (k + s.size)) := by
  have hturn : Turn c arch code base k _ := turn_readFront
  refine ⟨_, hturn, ?_⟩
  have hpos := (hturn.size_bounds hc hroom).1
  have hneeded := needed_pos arch hc
  unfold HasRoom at hroom
  cases hrest : code.drop k with
  | nil =>
    have hlength := congrArg List.length hrest
    rw [List.length_drop, List.length_nil] at hlength
    omega
  | cons b bs =>
    rw [hrest] at hpos
    have hfew : ¬ Bytes.fewerThan (needed c arch) (b :: bs) = true := by
      rw [Bytes.fewerThan_iff, ← hrest, List.length_drop]
      omega
    rw [stepsFrom, if_neg hfew]
    dsimp only at hpos ⊢
    -- the recursion drops the first byte and then the others of the step
    rw [← List.drop_drop, hrest, ← Nat.succ_pred_eq_of_pos hpos, List.drop_succ_cons]
    rfl

theorem stepsFrom_done (hroom : ¬ HasRoom c arch code k) :
    stepsFrom c arch base k (code.drop k) = [] := by
  unfold HasRoom at hroom
  cases hrest : code.drop k with
  | nil => rw [stepsFrom]
  | cons b bs =>
    have hlength := congrArg List.length hrest
    rw [List.length_drop, List.length_cons] at hlength
    have hfew : Bytes.fewerThan (needed c arch) (b :: bs) = true := by
      rw [Bytes.fewerThan_iff, List.length_cons]
      omega
    rw [stepsFrom, if_pos hfew]

/-- The loop ends, by induction on the number of bytes left, and yields what the sweep does. -/
theorem walk_stepsFrom (hc : 0 < c.arm64Window) (left : Nat) :
    ∀ k, code.length ≤ k + left →
      Walk c arch code base k (stepsFrom c arch base k (code.drop k)) := by
  induction left with
  | zero =>
    intro k hk
    have hroom : ¬ HasRoom c arch code k := by
      have := needed_pos arch hc
      unfold HasRoom
      omega
    rw [stepsFrom_done hroom]
    exact .done hroom
  | succ left ih =>
    intro k hk
    by_cases hroom : HasRoom c arch code k
    · obtain ⟨s, hturn, hsteps⟩ := stepsFrom_turn base hc hroom
      have hpos := (hturn.size_bounds hc hroom).1
      rw [hsteps]
      exact .turn hroom hturn (ih (k + s.size) (by omega))
    · rw [stepsFrom_done hroom]
      exact .done hroom

theorem Walk.deterministic {ss ts : List Step} (hs : Walk c arch code base k ss)
    (ht : Walk c arch code base k ts) : ss = ts := by
  induction hs generalizing ts with
  | done hroom =>
    cases ht with
    | done _ => rfl
    | turn hroom' _ _ => exact absurd hroom' hroom
  | turn hroom hturn _ ih =>
    cases ht with
    | done hroom' => exact absurd hroom hroom'
    | turn _ hturn' hrest' =>
      have heq := hturn.deterministic hturn'
      subst heq
      rw [ih hrest']

/-- The loop, started at the first byte, ends with the steps of the sweep and no others. -/
theorem walk_iff (hc : 0 < c.arm64Window) {ss : List Step} :
    Walk c arch code base 0 ss ↔ ss = steps c arch code base := by
  have hwalk : Walk c arch code base 0 (steps c arch code base) :=
    walk_stepsFrom hc code.length 0 (by omega)
  constructor
  · intro h
    exact h.deterministic hwalk
  · rintro rfl
    exact hwalk

theorem steps_walk (hc : 0 < c.arm64Window) :
    Walk c arch code base 0 (steps c arch code base) :=
  (walk_iff hc).mpr rfl

theorem Walk.head_offset {ss : List Step} (h : Walk c arch code base k ss) :
    ∀ s, ss.head? = some s → s.offset = k := by
  intro s hs
  cases h with
  | done _ => cases hs
  | turn _ hturn _ =>
    cases hs
    exact hturn.offset_eq

/-- Each step of a walk begins where the one before it ends. -/
theorem Walk.chain {ss : List Step} (h : Walk c arch code base k ss) :
    ss.IsChain (fun s t => t.offset = s.offset + s.size) := by
  induction h with
  | done _ => exact .nil
  | @turn k s ss _ hturn hrest ih =>
    cases ss with
    | nil => exact .singleton s
    | cons t ts =>
      have hnext := hrest.head_offset t rfl
      exact .cons_cons (by rw [hnext, hturn.offset_eq]) ih

/-- Every step of a walk comes from a turn at its offset. -/
theorem Walk.turn_of_mem {ss : List Step} (h : Walk c arch code base k ss) {s : Step}
    (hs : s ∈ ss) : HasRoom c arch code s.offset ∧ Turn c arch code base s.offset s := by
  induction h with
  | done _ => cases hs
  | turn hroom hturn _ ih =>
    cases hs with
    | head =>
      rw [hturn.offset_eq]
      exact ⟨hroom, hturn⟩
    | tail _ hmem => exact ih hmem

theorem Walk.le_offset {ss : List Step} (h : Walk c arch code base k ss) {s : Step}
    (hs : s ∈ ss) : k ≤ s.offset := by
  induction h with
  | done _ => cases hs
  | turn _ hturn _ ih =>
    cases hs with
    | head => exact Nat.le_of_eq hturn.offset_eq.symm
    | tail _ hmem => exact Nat.le_trans (Nat.le_add_right _ _) (ih hmem)

theorem Walk.ascending (hc : 0 < c.arm64Window) {ss : List Step} (h : Walk c arch code base k ss) :
    ss.Pairwise (fun s t => s.offset < t.offset) := by
  induction h with
  | done _ => exact .nil
  | turn hroom hturn hrest ih =>
    refine List.pairwise_cons.mpr ⟨?_, ih⟩
    intro t ht
    have hle := hrest.le_offset ht
    have hpos := (hturn.size_bounds hc hroom).1
    rw [hturn.offset_eq]
    omega

/-- The sizes add up to all bytes but those that are too few for another turn. -/
theorem Walk.total (hc : 0 < c.arm64Window) {ss : List Step} (h : Walk c arch code base k ss)
    (hk : k ≤ code.length) :
    k + (ss.map (·.size)).sum ≤ code.length ∧
      code.length < k + (ss.map (·.size)).sum + needed c arch := by
  induction h with
  | done hroom =>
    unfold HasRoom at hroom
    simp only [List.map_nil, List.sum_nil]
    omega
  | turn hroom hturn _ ih =>
    have hsize := (hturn.size_bounds hc hroom).2
    have htotal := ih hsize
    simp only [List.map_cons, List.sum_cons]
    omega

/-! ## The tiling -/

theorem Turn.size_of_failed {s : Step} (h : Turn c arch code base k s)
    (hs : s.reading = .failed) : s.size = stride c arch := by
  cases h with
  | marker _ => cases hs
  | insn _ _ => cases hs
  | failed _ _ => rfl

theorem Turn.marker_of_reading {s : Step} (h : Turn c arch code base k s)
    (hs : s.reading = .marker) : s.size = 4 ∧ MarkerAt c arch code k := by
  cases h with
  | marker hm => exact ⟨rfl, hm⟩
  | insn _ _ => cases hs
  | failed _ _ => cases hs

/-- An instruction takes no more than the window its decoder was given. -/
theorem Turn.size_le_window {s : Step} {i : Instruction} (h : Turn c arch code base k s)
    (hi : s.reading = .insn i) : s.size ≤ windowSize c arch := by
  cases h with
  | marker _ => cases hi
  | insn _ hd =>
    rw [decodeAt?_ofNat, decodeFront?_eq_some_iff] at hd
    exact Nat.le_trans (c.decoder.size_bounds hd.2.2).2 (List.length_take_le _ _)
  | failed _ _ => cases hi

/-- On A64 a turn takes one word: there are no markers, and instructions have one size. -/
theorem Turn.size_arm64 (hc : c.arm64Window = 4) {s : Step}
    (h : Turn c .arm64 code base k s) : s.size = 4 := by
  cases h with
  | marker hm => cases hm.1
  | insn _ hd =>
    rw [decodeAt?_ofNat, decodeFront?_eq_some_iff] at hd
    exact c.decoder.size_arm64 hd.2.2
  | failed _ _ => exact hc

theorem sum_eq_mul_length {ss : List Step} {n : Nat} (h : ∀ s ∈ ss, s.size = n) :
    (ss.map (·.size)).sum = n * ss.length := by
  induction ss with
  | nil => rfl
  | cons s ss ih =>
    have htail := ih fun t ht => h t (List.mem_cons_of_mem s ht)
    simp only [List.map_cons, List.sum_cons, List.length_cons]
    rw [htail, h s List.mem_cons_self, Nat.mul_succ, Nat.add_comm]

/-- **The steps tile the region.** Whatever
the decoder, the loop ends, with the steps of the sweep. They start at the
first byte, each begins where the one before it ends, none is empty or reaches past the end, and
each stands at its wrapped address. On x86-64 they cover every byte; a failed step takes one byte,
a marker its four, and an instruction at most fifteen. On A64 every step takes a word, and they
cover the whole words. -/
theorem steps_tile (dec : Decoder) (arch : Arch) (code : List UInt8) (base : Int) :
    let ss := steps dec.config arch code base
    (∀ ts, Walk dec.config arch code base 0 ts ↔ ts = ss) ∧
    (∀ s, ss.head? = some s → s.offset = 0) ∧
    ss.IsChain (fun s t => t.offset = s.offset + s.size) ∧
    (∀ s ∈ ss, 0 < s.size ∧ s.offset + s.size ≤ code.length ∧
      s.address = (base + s.offset) % 2 ^ 64) ∧
    match arch with
    | .amd64 =>
      (ss.map (·.size)).sum = code.length ∧
      (∀ s ∈ ss, s.reading = .failed → s.size = 1) ∧
      (∀ s ∈ ss, ∀ i, s.reading = .insn i → s.size ≤ 15) ∧
      (∀ s ∈ ss, s.reading = .marker → s.size = 4 ∧
        ((code.drop s.offset).take 4 = [0xf3, 0x0f, 0x1e, 0xfa] ∨
          (code.drop s.offset).take 4 = [0xf3, 0x0f, 0x1e, 0xfb]))
    | .arm64 =>
      (ss.map (·.size)).sum = 4 * (code.length / 4) ∧ (∀ s ∈ ss, s.size = 4) := by
  intro ss
  have hc : 0 < dec.config.arm64Window := Nat.succ_pos 3
  have hwalk : Walk dec.config arch code base 0 ss := steps_walk hc
  have htotal := hwalk.total hc (Nat.zero_le _)
  rw [Nat.zero_add] at htotal
  refine ⟨fun ts => walk_iff hc, hwalk.head_offset, hwalk.chain, ?_, ?_⟩
  · intro s hs
    obtain ⟨hroom, hturn⟩ := hwalk.turn_of_mem hs
    obtain ⟨hpos, hle⟩ := hturn.size_bounds hc hroom
    exact ⟨hpos, hle, hturn.address_eq.trans (Address.wrap_eq_emod _)⟩
  · cases arch with
    | amd64 =>
      refine ⟨?_, ?_, ?_, ?_⟩
      · simp only [needed] at htotal
        omega
      · intro s hs hfailed
        exact (hwalk.turn_of_mem hs).2.size_of_failed hfailed
      · intro s hs i hi
        exact (hwalk.turn_of_mem hs).2.size_le_window hi
      · intro s hs hmarker
        obtain ⟨hsize, _, _, hmem⟩ := (hwalk.turn_of_mem hs).2.marker_of_reading hmarker
        refine ⟨hsize, ?_⟩
        simpa only [List.mem_cons, List.not_mem_nil, or_false] using hmem
    | arm64 =>
      have hsize : ∀ s ∈ ss, s.size = 4 := fun s hs =>
        (hwalk.turn_of_mem hs).2.size_arm64 rfl
      refine ⟨?_, hsize⟩
      rw [sum_eq_mul_length hsize] at htotal ⊢
      simp only [needed] at htotal
      omega

/-- A marker below the top of the address space, a byte that does not decode, and a push. -/
theorem steps_tile_across_top :
    let code : List UInt8 := [0xf3, 0x0f, 0x1e, 0xfa, 0x06, 0x55]
    let ss := steps {} .amd64 code (2 ^ 64 - 2)
    (⟨4, 2, 1, .failed⟩ : Step) ∈ ss ∧
      (4 + 1 ≤ code.length ∧ (2 : Int) = (2 ^ 64 - 2 + 4) % 2 ^ 64) ∧
      (⟨0, 2 ^ 64 - 2, 4, .marker⟩ : Step) ∈ ss ∧
      ((code.drop 0).take 4 = [0xf3, 0x0f, 0x1e, 0xfa] ∨
        (code.drop 0).take 4 = [0xf3, 0x0f, 0x1e, 0xfb]) ∧
      (ss.map (·.size)).sum = 6 := by
  intro code ss
  have hfailed : (⟨4, 2, 1, .failed⟩ : Step) ∈ ss := by decide +kernel
  have hmarker : (⟨0, 2 ^ 64 - 2, 4, .marker⟩ : Step) ∈ ss := by decide +kernel
  obtain ⟨_, _, _, hplace, htotal, _, _, hcover⟩ := steps_tile .standard .amd64 code (2 ^ 64 - 2)
  exact ⟨hfailed, (hplace _ hfailed).2, hmarker, (hcover _ hmarker rfl).2, htotal⟩

end Sweep
end EntryScan
