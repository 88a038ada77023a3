import EntryScan.Proofs.Analysis
import EntryScan.Proofs.Portable

/-!
# EntryScan.Proofs.Relocation

The same bytes at two bases. Decoding puts a place on a body that was read without one, so that two
sweeps over the same bytes go side by side.

* `Instruction.Moved arch d i j`: `j` is what the bytes of `i` are when they stand `d` further on.
  Only operands that name places differ.
* `Sweep.stepsFrom_moved`: the steps of two sweeps correspond one to one.
* `Prologue.scan_moved`: no pattern looks at an operand that names a place.
* `CallSite.edges_moved`: the target of a branch moves along with it.

`Toolbox.relocate` puts it together.
-/

namespace EntryScan

namespace Instruction

/-- The instruction as it is, `d` further on. -/
def move (d : Int) (i : Instruction) : Instruction :=
  { i with address := Address.wrap (i.address + d) }

/-- `j` is what the bytes of `i` are when they stand `d` further on. -/
structure Moved (arch : Arch) (d : Int) (i j : Instruction) : Prop where
  address : j.address = Address.wrap (i.address + d)
  operation : j.operation = i.operation
  mnemonic : j.mnemonic = i.mnemonic
  eq_move : Branch.isSited arch i.operation = false → j = i.move d
  target : Branch.isBranch arch i.operation = true →
    j.target? = i.target?.map fun t => Address.wrap (t + d)

end Instruction

/-! ## Bodies at two places -/

namespace Amd64

theorem Arg.operand_of_isFixed {a : Arg} (h : a.isFixed = true) (next next' : Int) :
    a.operand next' = a.operand next := by
  cases a with
  | rel n => cases h
  | reg name => rfl
  | imm v => rfl
  | mem words ref => rfl

theorem Arg.text_of_isFixed {a : Arg} (h : a.isFixed = true) (next next' : Int) :
    a.text next' = a.text next := by
  cases a with
  | rel n => cases h
  | reg name => rfl
  | imm v => rfl
  | mem words ref => rfl

theorem Arg.imm?_of_isPlace {a : Arg} (h : a.isPlace = true) (next : Int) :
    (a.operand next).imm? = none := by
  cases a with
  | rel n => cases h
  | reg name => rfl
  | imm v => cases h
  | mem words ref => rfl

variable {b : Body} {address address' d : Int}

theorem Body.Portable.fixed (hb : b.Portable) (hop : Branch.isBranch .amd64 b.operation = false) :
    ∀ a ∈ b.args, a.isFixed = true := by
  rcases hb with hplaces | hrest
  · intro a ha
    exact Arg.isFixed_of_isPlace (hplaces a ha)
  · rw [if_neg (by simp [hop])] at hrest
    exact hrest

theorem target?_of_places (h : ∀ a ∈ b.args, a.isPlace = true) (size : Nat) :
    (b.place address size).target? = none := by
  refine Instruction.target?_eq_none ?_
  intro o ho
  obtain ⟨a, ha, rfl⟩ := List.mem_map.mp ho
  exact Arg.imm?_of_isPlace (h a ha) _

theorem Body.moved_place (hb : b.Portable) (size : Nat)
    (h : Address.wrap address' = Address.wrap (address + d)) :
    (b.place address size).Moved .amd64 d (b.place address' size) where
  address := by
    simp only [Body.place, Address.wrap_wrap_add, h]
  operation := rfl
  mnemonic := rfl
  eq_move := by
    intro hop
    have hbranch : Branch.isBranch .amd64 b.operation = false := (Bool.or_eq_false_iff.mp hop).1
    have hfixed := hb.fixed hbranch
    have htext : b.args.map (Arg.text (address' + size)) = b.args.map (Arg.text (address + size)) :=
      List.map_congr_left fun a ha => Arg.text_of_isFixed (hfixed a ha) _ _
    have hoperands : b.args.map (Arg.operand (address' + size)) =
        b.args.map (Arg.operand (address + size)) :=
      List.map_congr_left fun a ha => Arg.operand_of_isFixed (hfixed a ha) _ _
    simp only [Body.place, Instruction.move, htext, hoperands, Address.wrap_wrap_add, h]
  target := by
    intro (hop : Branch.isBranch .amd64 b.operation = true)
    rcases hb with hplaces | hrest
    · rw [target?_of_places hplaces, target?_of_places hplaces, Option.map_none]
    · rw [if_pos hop] at hrest
      obtain ⟨n, hargs⟩ := hrest
      rw [target?_of_rel hargs, target?_of_rel hargs, Option.map_some, Address.wrap_wrap_add]
      congr 1
      simp only [Address.wrap_eq_emod] at h ⊢
      omega

end Amd64

namespace Arm64

theorem Arg.operand_of_isFixed {a : Arg} (h : a.isFixed = true) (address address' : Int) :
    a.operand address' = a.operand address := by
  cases a with
  | label n => cases h
  | page n => cases h
  | reg name => rfl
  | extended name suffix => rfl
  | imm v => rfl
  | shifted v amount => rfl
  | mem base disp preIndexed => rfl

theorem Arg.text_of_isFixed {a : Arg} (h : a.isFixed = true) (address address' : Int) :
    a.text address' = a.text address := by
  cases a with
  | label n => cases h
  | page n => cases h
  | reg name => rfl
  | extended name suffix => rfl
  | imm v => rfl
  | shifted v amount => rfl
  | mem base disp preIndexed => cases preIndexed <;> rfl

theorem Arg.imm?_of_isPlace {a : Arg} (h : a.isPlace = true) (address : Int) :
    (a.operand address).imm? = none := by
  cases a with
  | reg name => rfl
  | extended name suffix => rfl
  | mem base disp preIndexed => rfl
  | imm v => cases h
  | shifted v amount => cases h
  | label n => cases h
  | page n => cases h

variable {b : Body} {address address' d : Int}

theorem Body.Portable.fixed (hb : b.Portable) (hop : Branch.isSited .arm64 b.operation = false) :
    ∀ a ∈ b.args, a.isFixed = true := by
  have hbranch : Branch.isBranch .arm64 b.operation = false := (Bool.or_eq_false_iff.mp hop).1
  rcases hb with hplaces | hrest
  · intro a ha
    exact Arg.isFixed_of_isPlace (hplaces a ha)
  · rw [if_neg (by simp [hbranch])] at hrest
    rcases hrest with hsited | hfixed
    · rw [hop] at hsited
      cases hsited
    · exact hfixed

theorem target?_of_places (h : ∀ a ∈ b.args, a.isPlace = true) :
    (b.place address).target? = none := by
  refine Instruction.target?_eq_none ?_
  intro o ho
  obtain ⟨a, ha, rfl⟩ := List.mem_map.mp ho
  exact Arg.imm?_of_isPlace (h a ha) _

theorem Body.moved_place (hb : b.Portable)
    (h : Address.wrap address' = Address.wrap (address + d)) :
    (b.place address).Moved .arm64 d (b.place address') where
  address := by
    simp only [Body.place, Address.wrap_wrap_add, h]
  operation := rfl
  mnemonic := rfl
  eq_move := by
    intro hop
    have hfixed := hb.fixed hop
    have htext : b.args.map (Arg.text address') = b.args.map (Arg.text address) :=
      List.map_congr_left fun a ha => Arg.text_of_isFixed (hfixed a ha) _ _
    have hoperands : b.args.map (Arg.operand address') = b.args.map (Arg.operand address) :=
      List.map_congr_left fun a ha => Arg.operand_of_isFixed (hfixed a ha) _ _
    simp only [Body.place, Instruction.move, htext, hoperands, Address.wrap_wrap_add, h]
  target := by
    intro (hop : Branch.isBranch .arm64 b.operation = true)
    rcases hb with hplaces | hrest
    · rw [target?_of_places hplaces, target?_of_places hplaces, Option.map_none]
    · rw [if_pos hop] at hrest
      obtain ⟨first, n, hargs⟩ := hrest
      rw [target?_of_label hargs, target?_of_label hargs, Option.map_some, Address.wrap_wrap_add]
      congr 1
      simp only [Address.wrap_eq_emod] at h ⊢
      omega

end Arm64

/-! ## Sweeps side by side -/

/-- What the bytes of a reading read as when they stand `d` further on. -/
inductive Reading.Moved (arch : Arch) (d : Int) : Reading → Reading → Prop where
  | failed : Moved arch d .failed .failed
  | marker : Moved arch d .marker .marker
  | insn {i j : Instruction} : i.Moved arch d j → Moved arch d (.insn i) (.insn j)

theorem Reading.Moved.failed_iff {arch : Arch} {d : Int} {r r' : Reading} (h : r.Moved arch d r') :
    r' = .failed ↔ r = .failed := by
  cases h <;> simp

theorem Reading.Moved.marker_iff {arch : Arch} {d : Int} {r r' : Reading} (h : r.Moved arch d r') :
    r' = .marker ↔ r = .marker := by
  cases h <;> simp

/-- The same step of a sweep that began `d` further on. -/
structure Step.Moved (arch : Arch) (d : Int) (s t : Step) : Prop where
  offset : t.offset = s.offset
  address : t.address = Address.wrap (s.address + d)
  size : t.size = s.size
  reading : s.reading.Moved arch d t.reading

namespace Sweep

variable {c : Config} {arch : Arch} {address address' d : Int}

/-- The same size, and instructions that correspond. -/
def MovedSize (arch : Arch) (d : Int) (x y : Decoded) : Prop :=
  y.size = x.size ∧ x.insn.Moved arch d y.insn

/-- A decoder for which it does not matter where a window stands, but for what names a place. -/
def Relocates (dec : Decoder) : Prop :=
  ∀ (arch : Arch) (window : List UInt8) {address address' d : Int},
    Address.wrap address' = Address.wrap (address + d) →
    Option.Rel (MovedSize arch d) (dec.decode? arch window address)
      (dec.decode? arch window address')

theorem relocates_standard : Relocates .standard := by
  intro arch window address address' d h
  cases arch with
  | amd64 =>
    simp only [Decoder.standard, Amd64.decode?]
    cases hbody : Amd64.decodeBody? window with
    | none => exact .none
    | some out =>
      obtain ⟨body, size⟩ := out
      exact .some ⟨rfl, Amd64.Body.moved_place (Amd64.portable_decodeBody? hbody) size h⟩
  | arm64 =>
    simp only [Decoder.standard, Arm64.decode?]
    split
    · exact .none
    · cases hbody : Arm64.decodeWord? (Bytes.littleEndian (window.take Arm64.wordSize)) with
      | none => exact .none
      | some body => exact .some ⟨rfl, Arm64.Body.moved_place (Arm64.portable_decodeWord? hbody) h⟩

theorem decodeFront?_moved (hc : Relocates c.decoder) (arch : Arch) (rest : List UInt8)
    (h : Address.wrap address' = Address.wrap (address + d)) :
    Option.Rel (MovedSize arch d) (decodeFront? c arch rest address)
      (decodeFront? c arch rest address') := by
  unfold decodeFront?
  split
  · exact .none
  · have hwindow := hc arch (rest.take (windowSize c arch)) h
    generalize c.decoder.decode? arch (rest.take (windowSize c arch)) address = x at hwindow ⊢
    generalize c.decoder.decode? arch (rest.take (windowSize c arch)) address' = y at hwindow ⊢
    cases hwindow with
    | none => exact .none
    | some hxy =>
      dsimp only
      rw [hxy.1]
      split
      · exact .none
      · exact .some hxy

theorem readFront_moved (hc : Relocates c.decoder) (arch : Arch) (rest : List UInt8)
    (h : Address.wrap address' = Address.wrap (address + d)) :
    (readFront c arch rest address').2 = (readFront c arch rest address).2 ∧
      (readFront c arch rest address).1.Moved arch d (readFront c arch rest address').1 := by
  unfold readFront
  split
  · exact ⟨rfl, .marker⟩
  · have hfront := decodeFront?_moved hc arch rest h
    generalize decodeFront? c arch rest address = x at hfront ⊢
    generalize decodeFront? c arch rest address' = y at hfront ⊢
    cases hfront with
    | none => exact ⟨rfl, .failed⟩
    | some hxy => exact ⟨hxy.1, .insn hxy.2⟩

/-- Two sweeps over the same bytes stay together, whatever their bases are. -/
theorem stepsFrom_moved (hc : Relocates c.decoder) (base d : Int) (offset : Nat) (rest : List UInt8) :
    List.Forall₂ (Step.Moved arch d) (stepsFrom c arch base offset rest)
      (stepsFrom c arch (base + d) offset rest) := by
  fun_induction stepsFrom c arch base offset rest with
  | case1 offset =>
    rw [stepsFrom]
    exact .nil
  | case2 offset b bs hfew =>
    rw [stepsFrom, if_pos hfew]
    exact .nil
  | case3 offset b bs hfew address reading size hread ih =>
    have hplace : Address.wrap (base + d + offset) = Address.wrap (address + d) := by
      simp only [address, Address.wrap_wrap_add]
      congr 1
      omega
    have hplace' : Address.wrap (Address.wrap (base + d + offset)) =
        Address.wrap (address + d) := by
      rw [Address.wrap_wrap, hplace]
    obtain ⟨hsize, hreading⟩ := readFront_moved hc arch (b :: bs) hplace'
    rw [hread] at hsize hreading
    rw [stepsFrom, if_neg hfew]
    simp only [hsize]
    exact .cons ⟨rfl, hplace, rfl, hreading⟩ ih

theorem readings_moved (hc : Relocates c.decoder) (code : List UInt8) (base d : Int) :
    List.Forall₂ (Reading.Moved arch d) (readings c arch code base)
      (readings c arch code (base + d)) := by
  refine List.forall₂_map_left_iff.mpr (List.forall₂_map_right_iff.mpr ?_)
  exact (stepsFrom_moved hc base d 0 code).imp fun _ _ h => h.reading

end Sweep

/-! ## Prologues -/

/-- The match, `d` further on. -/
def Prologue.move (d : Int) (p : Prologue) : Prologue :=
  { p with address := Address.wrap (p.address + d) }

theorem Prologue.anchored_move (address d : Int) (kind : PrologueKind) (text : String) :
    Prologue.anchored (Address.wrap (address + d)) kind text =
      (Prologue.anchored address kind text).move d := by
  simp only [anchored, move, Address.wrap_wrap, Address.wrap_wrap_add]

theorem Prologue.filterMap_move (d : Int) (found : List (Option Prologue)) :
    (found.map (Option.map (·.move d))).filterMap id = (found.filterMap id).map (·.move d) := by
  rw [List.filterMap_map, List.map_filterMap]
  rfl

namespace Instruction

variable {arch : Arch} {d : Int} {i j : Instruction}

theorem Moved.cases (h : i.Moved arch d j) :
    j = i.move d ∨ Branch.isSited arch i.operation = true ∧ j.operation = i.operation := by
  cases hsited : Branch.isSited arch i.operation with
  | false => exact Or.inl (h.eq_move hsited)
  | true => exact Or.inr ⟨rfl, h.operation⟩

end Instruction

@[simp] theorem Instruction.move_address (d : Int) (i : Instruction) :
    (i.move d).address = Address.wrap (i.address + d) := rfl

@[simp] theorem Instruction.move_operation (d : Int) (i : Instruction) :
    (i.move d).operation = i.operation := rfl

@[simp] theorem Instruction.move_operands (d : Int) (i : Instruction) :
    (i.move d).operands = i.operands := rfl

@[simp] theorem Instruction.move_hasReg (d : Int) (i : Instruction) (index : Nat)
    (name : String) : (i.move d).hasReg index name = i.hasReg index name := rfl

@[simp] theorem Instruction.move_text (d : Int) (i : Instruction) :
    (i.move d).text = i.text := rfl

@[simp] theorem Amd64.isPushRbp_move (d : Int) (i : Instruction) :
    isPushRbp (i.move d) = isPushRbp i := rfl

@[simp] theorem Amd64.isMoveRbpRsp_move (d : Int) (i : Instruction) :
    isMoveRbpRsp (i.move d) = isMoveRbpRsp i := rfl

@[simp] theorem Amd64.allocation?_move (d : Int) (i : Instruction) :
    allocation? (i.move d) = allocation? i := rfl

@[simp] theorem Amd64.isStackLea_move (d : Int) (i : Instruction) :
    isStackLea (i.move d) = isStackLea i := rfl

@[simp] theorem Arm64.isFrameStore_move (d : Int) (i : Instruction) :
    isFrameStore (i.move d) = isFrameStore i := rfl

@[simp] theorem Arm64.isFrameMove_move (d : Int) (i : Instruction) :
    isFrameMove (i.move d) = isFrameMove i := rfl

@[simp] theorem Arm64.lowersStack_move (d : Int) (i : Instruction) (index : Nat) :
    lowersStack (i.move d) index = lowersStack i index := rfl

theorem Branch.ne_of_isSited {arch : Arch} {operation : String} (name : String)
    (hname : isSited arch name = false) (h : isSited arch operation = true) :
    operation ≠ name := by
  rintro rfl
  rw [hname] at h
  cases h

section Patterns

variable {arch : Arch} {d : Int} {previous previous' : Option Instruction} {i j : Instruction}

theorem atBoundary_moved (h : Option.Rel (Instruction.Moved arch d) previous previous') :
    atBoundary previous' = atBoundary previous := by
  cases h with
  | none => rfl
  | some hp => simp only [atBoundary, hp.operation]

theorem Amd64.allocates_moved (h : Option.Rel (Instruction.Moved arch d) previous previous') :
    allocates previous' = allocates previous := by
  cases h with
  | none => rfl
  | some hp => simp only [allocates, hp.operation]

namespace Amd64

theorem classic?_moved (hp : Option.Rel (Instruction.Moved .amd64 d) previous previous')
    (hi : i.Moved .amd64 d j) :
    classic? previous' j = (classic? previous i).map (·.move d) := by
  cases hp with
  | none => rfl
  | @some p q hp =>
    rcases hp.cases with rfl | ⟨hsited, hop⟩
    · rcases hi.cases with rfl | ⟨hsited, hop⟩
      · simp only [classic?, isPushRbp_move, isMoveRbpRsp_move, Instruction.move_address,
          Instruction.move_text, Prologue.anchored_move]
        split <;> rfl
      · have hmov := Branch.ne_of_isSited "MOV" (by decide) hsited
        simp [classic?, isMoveRbpRsp, hop, hmov]
    · have hpush := Branch.ne_of_isSited "PUSH" (by decide) hsited
      simp [classic?, isPushRbp, hop, hpush]

theorem noFramePointer?_moved (hp : Option.Rel (Instruction.Moved .amd64 d) previous previous')
    (hi : i.Moved .amd64 d j) :
    noFramePointer? previous' j = (noFramePointer? previous i).map (·.move d) := by
  rcases hi.cases with rfl | ⟨hsited, hop⟩
  · simp only [noFramePointer?, allocation?_move, allocates_moved hp, Instruction.move_address,
      Prologue.anchored_move]
    split
    · split <;> rfl
    · rfl
  · have hsub := Branch.ne_of_isSited "SUB" (by decide) hsited
    simp [noFramePointer?, allocation?, hop, hsub]

theorem pushOnly?_moved (preserved : List String)
    (hp : Option.Rel (Instruction.Moved .amd64 d) previous previous') (hi : i.Moved .amd64 d j) :
    pushOnly? preserved previous' j = (pushOnly? preserved previous i).map (·.move d) := by
  rcases hi.cases with rfl | ⟨hsited, hop⟩
  · simp only [pushOnly?, atBoundary_moved hp, Instruction.move_address,
      Instruction.move_operation, Instruction.move_operands, Prologue.anchored_move]
    split
    · split <;> rfl
    · rfl
  · have hpush := Branch.ne_of_isSited "PUSH" (by decide) hsited
    have hnone : ∀ {q : Option Instruction} {k : Instruction}, k.operation ≠ "PUSH" →
        pushOnly? preserved q k = none := by
      intro q k hk
      unfold pushOnly?
      split
      · simp [hk]
      · rfl
    rw [hnone hpush, hnone (hop ▸ hpush), Option.map_none]

theorem leaBased?_moved (hp : Option.Rel (Instruction.Moved .amd64 d) previous previous')
    (hi : i.Moved .amd64 d j) :
    leaBased? previous' j = (leaBased? previous i).map (·.move d) := by
  rcases hi.cases with rfl | ⟨hsited, hop⟩
  · simp only [leaBased?, isStackLea_move, allocates_moved hp, Instruction.move_address,
      Instruction.move_text, Prologue.anchored_move]
    split <;> rfl
  · have hlea := Branch.ne_of_isSited "LEA" (by decide) hsited
    simp [leaBased?, isStackLea, hop, hlea]

theorem prologuesAt_moved (preserved : List String)
    (hp : Option.Rel (Instruction.Moved .amd64 d) previous previous') (hi : i.Moved .amd64 d j) :
    prologuesAt preserved previous' j = (prologuesAt preserved previous i).map (·.move d) := by
  rw [prologuesAt, classic?_moved hp hi, noFramePointer?_moved hp hi,
    pushOnly?_moved preserved hp hi, leaBased?_moved hp hi]
  exact Prologue.filterMap_move d [_, _, _, _]

end Amd64

namespace Arm64

theorem frame?_moved (hp : Option.Rel (Instruction.Moved .arm64 d) previous previous')
    (hi : i.Moved .arm64 d j) : frame? previous' j = (frame? previous i).map (·.move d) := by
  cases hp with
  | none => rfl
  | @some p q hp =>
    rcases hp.cases with rfl | ⟨hsited, hop⟩
    · rcases hi.cases with rfl | ⟨hsited, hop⟩
      · simp only [frame?, isFrameStore_move, isFrameMove_move, Instruction.move_address,
          Instruction.move_text, Prologue.anchored_move]
        split
        · split <;> rfl
        · rfl
      · -- what names a place is no move, so the store stands alone at both places
        have hmov := Branch.ne_of_isSited "MOV" (by decide) hsited
        have hadd := Branch.ne_of_isSited "ADD" (by decide) hsited
        have hmove : isFrameMove i = false := by simp [isFrameMove, hmov, hadd]
        have hmove' : isFrameMove j = false := by simp [isFrameMove, hop, hmov, hadd]
        simp only [frame?, isFrameStore_move, hmove, hmove', Instruction.move_address,
          Instruction.move_text, Prologue.anchored_move]
        split <;> rfl
    · have hstp := Branch.ne_of_isSited "STP" (by decide) hsited
      simp [frame?, isFrameStore, hop, hstp]

theorem strLr?_moved (hp : Option.Rel (Instruction.Moved .arm64 d) previous previous')
    (hi : i.Moved .arm64 d j) : strLr? previous' j = (strLr? previous i).map (·.move d) := by
  rcases hi.cases with rfl | ⟨hsited, hop⟩
  · simp only [strLr?, lowersStack_move, atBoundary_moved hp, Instruction.move_address,
      Instruction.move_operation, Instruction.move_hasReg, Instruction.move_text,
      Prologue.anchored_move]
    split <;> rfl
  · have hstr := Branch.ne_of_isSited "STR" (by decide) hsited
    simp [strLr?, hop, hstr]

theorem subSp?_moved (hp : Option.Rel (Instruction.Moved .arm64 d) previous previous')
    (hi : i.Moved .arm64 d j) : subSp? previous' j = (subSp? previous i).map (·.move d) := by
  rcases hi.cases with rfl | ⟨hsited, hop⟩
  · simp only [subSp?, atBoundary_moved hp, Instruction.move_address,
      Instruction.move_operation, Instruction.move_hasReg, Instruction.move_text,
      Prologue.anchored_move]
    split <;> rfl
  · have hsub := Branch.ne_of_isSited "SUB" (by decide) hsited
    simp [subSp?, hop, hsub]

theorem prologuesAt_moved (hp : Option.Rel (Instruction.Moved .arm64 d) previous previous')
    (hi : i.Moved .arm64 d j) :
    prologuesAt previous' j = (prologuesAt previous i).map (·.move d) := by
  rw [prologuesAt, frame?_moved hp hi, strLr?_moved hp hi, subSp?_moved hp hi]
  exact Prologue.filterMap_move d [_, _, _]

end Arm64

theorem Prologue.completed_moved (preserved : List String)
    (hp : Option.Rel (Instruction.Moved arch d) previous previous') (hi : i.Moved arch d j) :
    completed arch preserved previous' j =
      (completed arch preserved previous i).map (·.move d) := by
  cases arch with
  | amd64 => exact Amd64.prologuesAt_moved preserved hp hi
  | arm64 => exact Arm64.prologuesAt_moved hp hi

end Patterns

/-- A pass over readings that correspond, with look-behinds that correspond. -/
theorem Prologue.collectFrom_moved {arch : Arch} {d : Int} (preserved : List String)
    {rs rs' : List Reading} (h : List.Forall₂ (Reading.Moved arch d) rs rs') :
    ∀ {previous previous' : Option Instruction},
      Option.Rel (Instruction.Moved arch d) previous previous' →
      Reading.collectFrom (completed arch preserved) previous' rs' =
        (Reading.collectFrom (completed arch preserved) previous rs).map (·.move d) := by
  induction h with
  | nil =>
    intro previous previous' _
    rfl
  | cons hr _ ih =>
    intro previous previous' hp
    cases hr with
    | failed => exact ih .none
    | marker => exact ih hp
    | insn hi =>
      rw [Reading.collectFrom, Reading.collectFrom, List.map_append,
        ← completed_moved preserved hp hi, ih (.some hi)]

theorem Prologue.scan_moved {arch : Arch} {d : Int} (preserved : List String)
    {rs rs' : List Reading} (h : List.Forall₂ (Reading.Moved arch d) rs rs') :
    scan arch preserved rs' = (scan arch preserved rs).map (·.move d) := by
  rw [scan_eq_collect, scan_eq_collect]
  exact collectFrom_moved preserved h .none

/-! ## Call sites -/

namespace CallSite

/-- The edge, `d` further on. Its text may name another target. -/
structure Moved (d : Int) (e f : CallSite) : Prop where
  source : f.source = (e.source + d) % 2 ^ 64
  target : f.target = e.target.map fun t => (t + d) % 2 ^ 64
  kind : f.kind = e.kind
  mode : f.mode = e.mode
  confidence : f.confidence = e.confidence
  conditional : f.conditional = e.conditional

variable {arch : Arch} {d : Int} {i j : Instruction}

theorem of?_moved (h : i.Moved arch d j) : Branch.of? arch j = Branch.of? arch i := by
  simp only [Branch.of?, h.operation, h.mnemonic]

theorem edge_moved (h : i.Moved arch d j) {b : Branch} (hb : Branch.of? arch i = some b) :
    (edge arch i b).Moved d (edge arch j b) := by
  have hbranch : Branch.isBranch arch i.operation = true :=
    Branch.isBranch_iff.mpr ⟨b.kind, Branch.mem_operations_of_of? hb⟩
  have htarget := h.target hbranch
  have hmode : modeOf arch j = modeOf arch i := by simp only [modeOf, h.operation]
  have hsource : j.address = (i.address + d) % 2 ^ 64 := by
    rw [h.address, Address.wrap_eq_emod]
  unfold edge
  rw [htarget]
  cases i.target? with
  | none => exact ⟨hsource, rfl, rfl, rfl, rfl, rfl⟩
  | some t =>
    refine ⟨hsource, ?_, rfl, hmode, rfl, rfl⟩
    simp only [Option.map_some, Address.wrap_eq_emod]

theorem edges_moved {rs rs' : List Reading} (h : List.Forall₂ (Reading.Moved arch d) rs rs') :
    List.Forall₂ (Moved d) (edges arch rs) (edges arch rs') := by
  induction h with
  | nil => exact .nil
  | cons hr _ ih =>
    cases hr with
    | failed => exact ih
    | marker => exact ih
    | insn hi =>
      rw [edges_insn_cons, edges_insn_cons, of?_moved hi]
      refine List.rel_append ?_ ih
      cases hb : Branch.of? arch _ with
      | none => exact .nil
      | some b => exact .cons (edge_moved hi hb) .nil

end CallSite

/-! ## Relocation -/

/-- **Moving code moves what is found in it.** At two bases that are `d` apart, the sweeps take
steps of the same kinds and sizes at the same offsets. The prologues are the same, each `d` further
on, and so are the call sites with their targets; what is unresolved stays so. All addresses are taken
modulo `2 ^ 64`. -/
theorem Toolbox.relocate {tag : String} {arch : Arch} (htag : Arch.parse? tag = some arch)
    (code : List UInt8) (base base' : Int) :
    let d := base' - base
    List.Forall₂ (fun s t => t.offset = s.offset ∧ t.size = s.size ∧
        t.address = (s.address + d) % 2 ^ 64 ∧ (t.reading = .failed ↔ s.reading = .failed) ∧
        (t.reading = .marker ↔ s.reading = .marker))
      (Sweep.steps {} arch code base) (Sweep.steps {} arch code base') ∧
    (∃ ps, (detectPrologues {} code base tag).outcome.1 = .ok ps ∧
      (detectPrologues {} code base' tag).outcome.1 =
        .ok (ps.map fun p => { p with address := (p.address + d) % 2 ^ 64 })) ∧
    ∃ es es', (detectCallSites {} code base tag).outcome.1 = .ok es ∧
      (detectCallSites {} code base' tag).outcome.1 = .ok es' ∧
      List.Forall₂ (CallSite.Moved d) es es' := by
  intro d
  have hbase : base' = base + d := by omega
  have hreadings : List.Forall₂ (Reading.Moved arch d) (Sweep.readings {} arch code base)
      (Sweep.readings {} arch code base') := by
    rw [hbase]
    exact Sweep.readings_moved Sweep.relocates_standard code base d
  refine ⟨?_, ?_, ?_⟩
  · rw [hbase]
    refine (Sweep.stepsFrom_moved Sweep.relocates_standard base d 0 code).imp ?_
    intro s t h
    refine ⟨h.offset, h.size, ?_, h.reading.failed_iff, h.reading.marker_iff⟩
    rw [h.address, Address.wrap_eq_emod]
  · refine ⟨_, (detectPrologues_returns htag _ _).outcome, ?_⟩
    rw [(detectPrologues_returns htag _ _).outcome, Prologue.scan_moved arch.calleeSaved hreadings]
    simp only [Prologue.move, Address.wrap_eq_emod]
  · exact ⟨_, _, (detectCallSites_returns htag _ _).outcome,
      (detectCallSites_returns htag _ _).outcome, CallSite.edges_moved hreadings⟩

/-- `push rbp; mov rbp, rsp; call` of the next instruction, at `0x1000` and eight bytes below zero:
the frame is set up below the top of the address space, and the call leads over it. -/
theorem Toolbox.relocate_below_zero :
    let code : List UInt8 := [0x55, 0x48, 0x89, 0xe5, 0xe8, 0, 0, 0, 0]
    (detectPrologues {} code (-8) "amd64").outcome.1 =
        .ok [⟨2 ^ 64 - 8, .pushOnly, "push rbp"⟩,
          ⟨2 ^ 64 - 8, .classic, "push rbp; mov rbp, rsp"⟩] ∧
      ∃ es, (detectCallSites {} code (-8) "amd64").outcome.1 = .ok es ∧
        es.map (fun e => (e.source, e.target)) = [(2 ^ 64 - 4, some 1)] := by
  intro code
  have htag : Arch.parse? "amd64" = some .amd64 := by decide
  obtain ⟨_, ⟨ps, hps, hps'⟩, es, es', hes, hes', hmoved⟩ := relocate htag code 0x1000 (-8)
  have hfound : ps = [⟨0x1000, .pushOnly, "push rbp"⟩,
      ⟨0x1000, .classic, "push rbp; mov rbp, rsp"⟩] := by
    rw [(detectPrologues_returns htag _ _).outcome] at hps
    cases hps
    decide +kernel
  have hedges : es = [⟨0x1004, some 0x1009, .call, .pcRelative, .high, "call 0x1009", false⟩] := by
    rw [(detectCallSites_returns htag _ _).outcome] at hes
    cases hes
    decide +kernel
  subst hfound hedges
  refine ⟨hps', es', hes', ?_⟩
  cases hmoved with
  | cons h hrest =>
    cases hrest
    simp only [List.map_cons, List.map_nil, h.source, h.target]
    decide

end EntryScan
