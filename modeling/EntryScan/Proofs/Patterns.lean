import EntryScan.Proofs.Address
import EntryScan.Proofs.Lookbehind
import EntryScan.Prologue.Scan

/-!
# EntryScan.Proofs.Patterns

The prologue patterns as a relation, and the scan as their search.

`Matches arch previous i anchor kind text` says that `i`, with `previous` as its look-behind,
completes a pattern of the architecture that is anchored at the instruction `anchor`. There is one
rule for each pattern. `Prologue.mem_scan` says that a scan finds the matches of these rules and
nothing else.
-/

namespace EntryScan

/-! ## The rules -/

/-- The look-behind is missing or a return. -/
def AtBoundary (previous : Option Instruction) : Prop :=
  ∀ p, previous = some p → p.operation = "RET"

/-- The look-behind is missing, a return or a push. -/
def MayAllocate (previous : Option Instruction) : Prop :=
  ∀ p, previous = some p → p.operation = "RET" ∨ p.operation = "PUSH"

namespace Instruction

/-- The text of the operands ends in `!`, apart from blanks behind it. -/
def EndsInMark (i : Instruction) : Prop :=
  ∃ body blanks, i.operandText.toList = body ++ '!' :: blanks ∧ ∀ ch ∈ blanks, Text.isBlank ch

/-- The operand at an index is `[sp, #-N]!`. -/
def LowersStack (i : Instruction) (index : Nat) : Prop :=
  ∃ disp, i.operand? index = some (.mem (some "sp") disp) ∧ disp < 0 ∧ i.EndsInMark

/-- `stp x29, x30, [sp, #-N]!`. -/
def IsFrameStore (i : Instruction) : Prop :=
  i.operation = "STP" ∧ i.operand? 0 = some (.reg "x29") ∧ i.operand? 1 = some (.reg "x30") ∧
    i.LowersStack 2

/-- `mov x29, sp` or `add x29, sp, #0`. -/
def IsFrameMove (i : Instruction) : Prop :=
  i.operation = "MOV" ∧ i.operands = [.reg "x29", .reg "sp"] ∨
    i.operation = "ADD" ∧ i.operands = [.reg "x29", .reg "sp", .imm 0]

end Instruction

/-- The patterns: what an instruction and its look-behind match, where the match is anchored and
how it reads. -/
inductive Matches : Arch → Option Instruction → Instruction → Instruction → PrologueKind →
    String → Prop where
  | classic {p i : Instruction} :
      p.operation = "PUSH" → p.operand? 0 = some (.reg "rbp") →
      i.operation = "MOV" → i.operands = [.reg "rbp", .reg "rsp"] →
      Matches .amd64 (some p) i p .classic (p.text ++ "; " ++ i.text)
  | noFramePointer {previous : Option Instruction} {i : Instruction} {v : Int} :
      i.operation = "SUB" → i.operand? 0 = some (.reg "rsp") → i.operand? 1 = some (.imm v) →
      0 < v % 2 ^ 64 → v % 2 ^ 64 < 2 ^ 63 → MayAllocate previous →
      Matches .amd64 previous i i .noFramePointer ("sub rsp, " ++ Number.hex (v % 2 ^ 64))
  | pushOnly {previous : Option Instruction} {i : Instruction} {r : String} :
      i.operation = "PUSH" → i.operand? 0 = some (.reg r) →
      Text.lowerAscii r ∈ ["rbx", "rbp", "r12", "r13", "r14", "r15"] → AtBoundary previous →
      Matches .amd64 previous i i .pushOnly ("push " ++ r)
  | leaBased {previous : Option Instruction} {i : Instruction} {disp : Int} :
      i.operation = "LEA" → i.operand? 0 = some (.reg "rsp") →
      i.operand? 1 = some (.mem (some "rsp") disp) → disp < 0 → MayAllocate previous →
      Matches .amd64 previous i i .leaBased i.text
  | stpFramePair {p i : Instruction} :
      p.IsFrameStore → i.IsFrameMove →
      Matches .arm64 (some p) i p .stpFramePair (p.text ++ "; " ++ i.text)
  | stpOnly {p i : Instruction} :
      p.IsFrameStore → ¬ i.IsFrameMove → Matches .arm64 (some p) i p .stpOnly p.text
  | strLrPreindex {previous : Option Instruction} {i : Instruction} :
      i.operation = "STR" → i.operand? 0 = some (.reg "x30") → i.LowersStack 1 →
      AtBoundary previous → Matches .arm64 previous i i .strLrPreindex i.text
  | subSp {previous : Option Instruction} {i : Instruction} :
      i.operation = "SUB" → i.operand? 0 = some (.reg "sp") → i.operand? 1 = some (.reg "sp") →
      AtBoundary previous → Matches .arm64 previous i i .subSp i.text

/-- A match is anchored at the instruction that completes it or at its look-behind. -/
theorem Matches.anchor_cases {arch : Arch} {previous : Option Instruction}
    {i anchor : Instruction} {kind : PrologueKind} {text : String}
    (h : Matches arch previous i anchor kind text) : anchor = i ∨ previous = some anchor := by
  cases h with
  | classic => exact Or.inr rfl
  | noFramePointer => exact Or.inl rfl
  | pushOnly => exact Or.inl rfl
  | leaBased => exact Or.inl rfl
  | stpFramePair => exact Or.inr rfl
  | stpOnly => exact Or.inr rfl
  | strLrPreindex => exact Or.inl rfl
  | subSp => exact Or.inl rfl

/-! ## The tests of the scan -/

@[simp] theorem Operand.isReg_iff {name : String} {o : Operand} :
    o.isReg name = true ↔ o = .reg name := by
  cases o <;> simp [Operand.isReg]

@[simp] theorem Instruction.hasReg_iff {i : Instruction} {index : Nat} {name : String} :
    i.hasReg index name = true ↔ i.operand? index = some (.reg name) := by
  unfold Instruction.hasReg
  split
  · rename_i o ho
    simp [ho]
  · rename_i ho
    simp [ho]

@[simp] theorem atBoundary_iff {previous : Option Instruction} :
    atBoundary previous = true ↔ AtBoundary previous := by
  cases previous <;> simp [atBoundary, AtBoundary]

namespace Amd64

@[simp] theorem allocates_iff {previous : Option Instruction} :
    allocates previous = true ↔ MayAllocate previous := by
  cases previous <;> simp [allocates, MayAllocate]

theorem isPushRbp_iff {i : Instruction} :
    isPushRbp i = true ↔ i.operation = "PUSH" ∧ i.operand? 0 = some (.reg "rbp") := by
  simp [isPushRbp]

end Amd64

/-- Two operands are the whole list if there are two. -/
theorem Instruction.operands_eq_pair {i : Instruction} {a b : Operand} :
    i.operands.length = 2 ∧ i.operand? 0 = some a ∧ i.operand? 1 = some b ↔
      i.operands = [a, b] := by
  unfold Instruction.operand?
  constructor
  · rintro ⟨hlength, ha, hb⟩
    match hops : i.operands, hlength with
    | [x, y], _ =>
      rw [hops] at ha hb
      cases ha
      cases hb
      rfl
  · intro h
    simp [h]

theorem Instruction.operands_eq_triple {i : Instruction} {a b c : Operand} :
    i.operands.length = 3 ∧ i.operand? 0 = some a ∧ i.operand? 1 = some b ∧
      i.operand? 2 = some c ↔ i.operands = [a, b, c] := by
  unfold Instruction.operand?
  constructor
  · rintro ⟨hlength, ha, hb, hc⟩
    match hops : i.operands, hlength with
    | [x, y, z], _ =>
      rw [hops] at ha hb hc
      cases ha
      cases hb
      cases hc
      rfl
  · intro h
    simp [h]

theorem Amd64.isMoveRbpRsp_iff {i : Instruction} :
    Amd64.isMoveRbpRsp i = true ↔ i.operation = "MOV" ∧ i.operands = [.reg "rbp", .reg "rsp"] := by
  simp only [Amd64.isMoveRbpRsp, Bool.and_eq_true, beq_iff_eq, Instruction.hasReg_iff, and_assoc,
    Instruction.operands_eq_pair]

/-- What stands last once a class of characters is dropped at the end. -/
theorem Text.getLast?_dropEndWhile {p : Char → Bool} {ch : Char} (hch : ¬ p ch)
    {cs : List Char} : (Text.dropEndWhile p cs).getLast? = some ch ↔
      ∃ body tail, cs = body ++ ch :: tail ∧ ∀ x ∈ tail, p x := by
  rw [Text.dropEndWhile, List.getLast?_reverse]
  constructor
  · intro h
    obtain ⟨rest, hrest⟩ := List.head?_eq_some_iff.mp h
    have hsplit := List.takeWhile_append_dropWhile (p := p) (l := cs.reverse)
    rw [hrest] at hsplit
    refine ⟨rest.reverse, (cs.reverse.takeWhile p).reverse, ?_, ?_⟩
    · simpa using (congrArg List.reverse hsplit).symm
    · intro x hx
      exact List.all_eq_true.mp List.all_takeWhile x (List.mem_reverse.mp hx)
  · rintro ⟨body, tail, rfl, htail⟩
    have hdrop : ∀ x ∈ tail.reverse, p x := fun x hx => htail x (List.mem_reverse.mp hx)
    rw [List.reverse_append, List.reverse_cons, List.append_assoc,
      List.dropWhile_append_of_pos hdrop, List.singleton_append,
      List.dropWhile_cons_of_neg hch, List.head?_cons]

namespace Arm64

theorem marksPreIndex_iff {i : Instruction} : marksPreIndex i = true ↔ i.EndsInMark := by
  rw [marksPreIndex, beq_iff_eq, Text.getLast?_dropEndWhile (by decide)]
  rfl

theorem lowersStack_iff {i : Instruction} {index : Nat} :
    lowersStack i index = true ↔ i.LowersStack index := by
  unfold lowersStack Instruction.LowersStack
  split
  · rename_i base disp hop
    simp only [Bool.and_eq_true, beq_iff_eq, decide_eq_true_eq, marksPreIndex_iff, hop]
    constructor
    · rintro ⟨⟨rfl, hdisp⟩, hmark⟩
      exact ⟨disp, rfl, hdisp, hmark⟩
    · rintro ⟨_, heq, hdisp, hmark⟩
      cases heq
      exact ⟨⟨rfl, hdisp⟩, hmark⟩
  · rename_i hop
    constructor
    · intro h
      cases h
    · rintro ⟨disp, heq, _⟩
      exact absurd heq (hop _ _)

theorem isFrameStore_iff {i : Instruction} : isFrameStore i = true ↔ i.IsFrameStore := by
  simp only [isFrameStore, Instruction.IsFrameStore, Bool.and_eq_true, beq_iff_eq,
    Instruction.hasReg_iff, lowersStack_iff, and_assoc]

theorem isFrameMove_iff {i : Instruction} : isFrameMove i = true ↔ i.IsFrameMove := by
  rw [Instruction.IsFrameMove, ← Instruction.operands_eq_pair, ← Instruction.operands_eq_triple]
  simp only [isFrameMove, Bool.and_eq_true, Bool.or_eq_true, beq_iff_eq, Instruction.hasReg_iff]
  constructor
  · rintro ⟨⟨h0, h1⟩, ⟨hop, hlength⟩ | ⟨⟨hop, hlength⟩, h2⟩⟩
    · exact Or.inl ⟨hop, hlength, h0, h1⟩
    · exact Or.inr ⟨hop, hlength, h0, h1, h2⟩
  · rintro (⟨hop, hlength, h0, h1⟩ | ⟨hop, hlength, h0, h1, h2⟩)
    · exact ⟨⟨h0, h1⟩, Or.inl ⟨hop, hlength⟩⟩
    · exact ⟨⟨h0, h1⟩, Or.inr ⟨⟨hop, hlength⟩, h2⟩⟩

end Arm64

/-! ## The patterns of x86-64 -/

/-- A match of a kind, as a scan records it. -/
def Records (arch : Arch) (previous : Option Instruction) (i : Instruction) (kind : PrologueKind)
    (q : Prologue) : Prop :=
  ∃ anchor text, Matches arch previous i anchor kind text ∧
    q = .anchored anchor.address kind text

namespace Amd64

variable {previous : Option Instruction} {i : Instruction} {q : Prologue}

theorem classic?_eq_some_iff :
    classic? previous i = some q ↔ Records .amd64 previous i .classic q := by
  unfold classic?
  constructor
  · intro h
    split at h
    · rename_i p
      split at h
      · rename_i hmatch
        rw [Bool.and_eq_true, isPushRbp_iff, isMoveRbpRsp_iff] at hmatch
        cases h
        exact ⟨p, _, .classic hmatch.1.1 hmatch.1.2 hmatch.2.1 hmatch.2.2, rfl⟩
      · cases h
    · cases h
  · rintro ⟨p, text, hm, rfl⟩
    cases hm with
    | classic hpush hrbp hmov hops =>
      have hmatch : (isPushRbp p && isMoveRbpRsp i) = true := by
        rw [Bool.and_eq_true, isPushRbp_iff, isMoveRbpRsp_iff]
        exact ⟨⟨hpush, hrbp⟩, hmov, hops⟩
      exact if_pos hmatch

theorem allocation?_eq_some_iff {amount : Int} :
    allocation? i = some amount ↔
      ∃ v, i.operation = "SUB" ∧ i.operand? 0 = some (.reg "rsp") ∧
        i.operand? 1 = some (.imm v) ∧ 0 < v % 2 ^ 64 ∧ v % 2 ^ 64 < 2 ^ 63 ∧
        amount = v % 2 ^ 64 := by
  unfold allocation?
  constructor
  · intro h
    split at h
    · rename_i hsub
      rw [Bool.and_eq_true, beq_iff_eq, Instruction.hasReg_iff] at hsub
      split at h
      · rename_i v hv
        split at h
        · rename_i hpos
          cases h
          obtain ⟨hpos', hlt⟩ := Address.signed_pos_iff.mp hpos
          exact ⟨v, hsub.1, hsub.2, hv, hpos', hlt, Address.signed_of_lt hlt⟩
        · cases h
      · cases h
    · cases h
  · rintro ⟨v, hsub, hrsp, hv, hpos, hlt, rfl⟩
    have htest : (i.operation == "SUB" && i.hasReg 0 "rsp") = true := by
      rw [Bool.and_eq_true, beq_iff_eq, Instruction.hasReg_iff]
      exact ⟨hsub, hrsp⟩
    rw [if_pos htest, hv]
    dsimp only
    rw [if_pos (Address.signed_pos_iff.mpr ⟨hpos, hlt⟩), Address.signed_of_lt hlt]

theorem noFramePointer?_eq_some_iff :
    noFramePointer? previous i = some q ↔ Records .amd64 previous i .noFramePointer q := by
  unfold noFramePointer?
  constructor
  · intro h
    split at h
    · rename_i amount hamount
      obtain ⟨v, hsub, hrsp, hv, hpos, hlt, rfl⟩ := allocation?_eq_some_iff.mp hamount
      split at h
      · rename_i hplace
        cases h
        exact ⟨i, _, .noFramePointer hsub hrsp hv hpos hlt (allocates_iff.mp hplace), rfl⟩
      · cases h
    · cases h
  · rintro ⟨anchor, text, hm, rfl⟩
    cases hm with
    | noFramePointer hsub hrsp hv hpos hlt hplace =>
      rw [allocation?_eq_some_iff.mpr ⟨_, hsub, hrsp, hv, hpos, hlt, rfl⟩]
      exact if_pos (allocates_iff.mpr hplace)

theorem pushOnly?_eq_some_iff :
    pushOnly? (Arch.calleeSaved .amd64) previous i = some q ↔
      Records .amd64 previous i .pushOnly q := by
  unfold pushOnly?
  constructor
  · intro h
    split at h
    · rename_i r rest hops
      split at h
      · rename_i htest
        simp only [Bool.and_eq_true, beq_iff_eq, atBoundary_iff, isPreserved,
          List.contains_iff_mem] at htest
        cases h
        have hop : i.operand? 0 = some (.reg r) := by rw [Instruction.operand?, hops]; rfl
        exact ⟨i, _, .pushOnly htest.1.1 hop htest.1.2 htest.2, rfl⟩
      · cases h
    · cases h
  · rintro ⟨anchor, text, hm, rfl⟩
    cases hm with
    | @pushOnly _ _ r hpush hop hsaved hplace =>
      obtain ⟨rest, hops⟩ : ∃ rest, i.operands = .reg r :: rest := by
        rw [Instruction.operand?, ← List.head?_eq_getElem?] at hop
        exact List.head?_eq_some_iff.mp hop
      have htest : (i.operation == "PUSH" && isPreserved (Arch.calleeSaved .amd64) r &&
          atBoundary previous) = true := by
        simp only [Bool.and_eq_true, beq_iff_eq, atBoundary_iff, isPreserved,
          List.contains_iff_mem]
        exact ⟨⟨hpush, hsaved⟩, hplace⟩
      rw [hops]
      exact if_pos htest

theorem isStackLea_iff :
    isStackLea i = true ↔ ∃ disp, i.operation = "LEA" ∧ i.operand? 0 = some (.reg "rsp") ∧
      i.operand? 1 = some (.mem (some "rsp") disp) ∧ disp < 0 := by
  simp only [isStackLea, Bool.and_eq_true, beq_iff_eq, Instruction.hasReg_iff]
  constructor
  · rintro ⟨⟨hlea, hrsp⟩, hmem⟩
    split at hmem
    · rename_i base disp hop
      rw [Bool.and_eq_true, beq_iff_eq, decide_eq_true_eq] at hmem
      obtain ⟨rfl, hdisp⟩ := hmem
      exact ⟨disp, hlea, hrsp, hop, hdisp⟩
    · cases hmem
  · rintro ⟨disp, hlea, hrsp, hop, hdisp⟩
    refine ⟨⟨hlea, hrsp⟩, ?_⟩
    rw [hop]
    simpa using hdisp

theorem leaBased?_eq_some_iff :
    leaBased? previous i = some q ↔ Records .amd64 previous i .leaBased q := by
  unfold leaBased?
  constructor
  · intro h
    split at h
    · rename_i htest
      rw [Bool.and_eq_true, isStackLea_iff, allocates_iff] at htest
      obtain ⟨⟨disp, hlea, hrsp, hop, hdisp⟩, hplace⟩ := htest
      cases h
      exact ⟨i, _, .leaBased hlea hrsp hop hdisp hplace, rfl⟩
    · cases h
  · rintro ⟨anchor, text, hm, rfl⟩
    cases hm with
    | leaBased hlea hrsp hop hdisp hplace =>
      have htest : (isStackLea i && allocates previous) = true := by
        rw [Bool.and_eq_true, isStackLea_iff, allocates_iff]
        exact ⟨⟨_, hlea, hrsp, hop, hdisp⟩, hplace⟩
      exact if_pos htest

theorem mem_prologuesAt :
    q ∈ prologuesAt (Arch.calleeSaved .amd64) previous i ↔
      ∃ kind, Records .amd64 previous i kind q := by
  have hsplit : q ∈ prologuesAt (Arch.calleeSaved .amd64) previous i ↔
      classic? previous i = some q ∨ noFramePointer? previous i = some q ∨
        pushOnly? (Arch.calleeSaved .amd64) previous i = some q ∨
        leaBased? previous i = some q := by
    simp [prologuesAt, @eq_comm _ (some q)]
  rw [hsplit, classic?_eq_some_iff, noFramePointer?_eq_some_iff, pushOnly?_eq_some_iff,
    leaBased?_eq_some_iff]
  constructor
  · rintro (h | h | h | h)
    · exact ⟨_, h⟩
    · exact ⟨_, h⟩
    · exact ⟨_, h⟩
    · exact ⟨_, h⟩
  · rintro ⟨kind, anchor, text, hm, rfl⟩
    cases hm with
    | classic h₁ h₂ h₃ h₄ => exact Or.inl ⟨_, _, .classic h₁ h₂ h₃ h₄, rfl⟩
    | noFramePointer h₁ h₂ h₃ h₄ h₅ h₆ =>
      exact Or.inr (Or.inl ⟨_, _, .noFramePointer h₁ h₂ h₃ h₄ h₅ h₆, rfl⟩)
    | pushOnly h₁ h₂ h₃ h₄ => exact Or.inr (Or.inr (Or.inl ⟨_, _, .pushOnly h₁ h₂ h₃ h₄, rfl⟩))
    | leaBased h₁ h₂ h₃ h₄ h₅ =>
      exact Or.inr (Or.inr (Or.inr ⟨_, _, .leaBased h₁ h₂ h₃ h₄ h₅, rfl⟩))

end Amd64

/-! ## The patterns of A64 -/

namespace Arm64

variable {previous : Option Instruction} {i : Instruction} {q : Prologue}

theorem frame?_eq_some_iff :
    frame? previous i = some q ↔
      Records .arm64 previous i .stpFramePair q ∨ Records .arm64 previous i .stpOnly q := by
  unfold frame?
  constructor
  · intro h
    split at h
    · rename_i p
      split at h
      · rename_i hstore
        rw [isFrameStore_iff] at hstore
        split at h
        · rename_i hmove
          cases h
          exact Or.inl ⟨p, _, .stpFramePair hstore (isFrameMove_iff.mp hmove), rfl⟩
        · rename_i hmove
          cases h
          exact Or.inr ⟨p, _, .stpOnly hstore fun hm => hmove (isFrameMove_iff.mpr hm), rfl⟩
      · cases h
    · cases h
  · rintro (⟨anchor, text, hm, rfl⟩ | ⟨anchor, text, hm, rfl⟩)
    · cases hm with
      | stpFramePair hstore hmove =>
        dsimp only
        rw [if_pos (isFrameStore_iff.mpr hstore), if_pos (isFrameMove_iff.mpr hmove)]
    · cases hm with
      | stpOnly hstore hmove =>
        dsimp only
        rw [if_pos (isFrameStore_iff.mpr hstore),
          if_neg fun hm => hmove (isFrameMove_iff.mp hm)]

theorem strLr?_eq_some_iff :
    strLr? previous i = some q ↔ Records .arm64 previous i .strLrPreindex q := by
  have htest : (i.operation == "STR" && i.hasReg 0 "x30" && lowersStack i 1 &&
      atBoundary previous) = true ↔
      i.operation = "STR" ∧ i.operand? 0 = some (.reg "x30") ∧ i.LowersStack 1 ∧
        AtBoundary previous := by
    simp only [Bool.and_eq_true, beq_iff_eq, Instruction.hasReg_iff, lowersStack_iff,
      atBoundary_iff, and_assoc]
  unfold strLr?
  constructor
  · intro h
    split at h
    · rename_i hyes
      obtain ⟨hstr, hlr, hlower, hplace⟩ := htest.mp hyes
      cases h
      exact ⟨i, _, .strLrPreindex hstr hlr hlower hplace, rfl⟩
    · cases h
  · rintro ⟨anchor, text, hm, rfl⟩
    cases hm with
    | strLrPreindex hstr hlr hlower hplace =>
      exact if_pos (htest.mpr ⟨hstr, hlr, hlower, hplace⟩)

theorem subSp?_eq_some_iff :
    subSp? previous i = some q ↔ Records .arm64 previous i .subSp q := by
  have htest : (i.operation == "SUB" && i.hasReg 0 "sp" && i.hasReg 1 "sp" &&
      atBoundary previous) = true ↔
      i.operation = "SUB" ∧ i.operand? 0 = some (.reg "sp") ∧ i.operand? 1 = some (.reg "sp") ∧
        AtBoundary previous := by
    simp only [Bool.and_eq_true, beq_iff_eq, Instruction.hasReg_iff, atBoundary_iff, and_assoc]
  unfold subSp?
  constructor
  · intro h
    split at h
    · rename_i hyes
      obtain ⟨hsub, h0, h1, hplace⟩ := htest.mp hyes
      cases h
      exact ⟨i, _, .subSp hsub h0 h1 hplace, rfl⟩
    · cases h
  · rintro ⟨anchor, text, hm, rfl⟩
    cases hm with
    | subSp hsub h0 h1 hplace => exact if_pos (htest.mpr ⟨hsub, h0, h1, hplace⟩)

theorem mem_prologuesAt :
    q ∈ prologuesAt previous i ↔ ∃ kind, Records .arm64 previous i kind q := by
  have hsplit : q ∈ prologuesAt previous i ↔
      frame? previous i = some q ∨ strLr? previous i = some q ∨ subSp? previous i = some q := by
    simp [prologuesAt, @eq_comm _ (some q)]
  rw [hsplit, frame?_eq_some_iff, strLr?_eq_some_iff, subSp?_eq_some_iff]
  constructor
  · rintro ((h | h) | h | h)
    · exact ⟨_, h⟩
    · exact ⟨_, h⟩
    · exact ⟨_, h⟩
    · exact ⟨_, h⟩
  · rintro ⟨kind, anchor, text, hm, rfl⟩
    cases hm with
    | stpFramePair h₁ h₂ => exact Or.inl (Or.inl ⟨_, _, .stpFramePair h₁ h₂, rfl⟩)
    | stpOnly h₁ h₂ => exact Or.inl (Or.inr ⟨_, _, .stpOnly h₁ h₂, rfl⟩)
    | strLrPreindex h₁ h₂ h₃ h₄ =>
      exact Or.inr (Or.inl ⟨_, _, .strLrPreindex h₁ h₂ h₃ h₄, rfl⟩)
    | subSp h₁ h₂ h₃ h₄ => exact Or.inr (Or.inr ⟨_, _, .subSp h₁ h₂ h₃ h₄, rfl⟩)

end Arm64

/-! ## The scan -/

/-- What the patterns of an architecture make of an instruction and its look-behind. -/
def Prologue.completed (arch : Arch) (preserved : List String) :
    Option Instruction → Instruction → List Prologue :=
  match arch with
  | .amd64 => Amd64.prologuesAt preserved
  | .arm64 => Arm64.prologuesAt

theorem Prologue.scan_eq_collect (arch : Arch) (preserved : List String) (rs : List Reading) :
    scan arch preserved rs = Reading.collect (completed arch preserved) rs := by
  cases arch <;> rfl

/-- A scan finds what the rules match at each instruction and its look-behind, and nothing else. -/
theorem Prologue.mem_scan {arch : Arch} {rs : List Reading} {q : Prologue} :
    q ∈ Prologue.scan arch arch.calleeSaved rs ↔
      ∃ earlier i later kind, rs = earlier ++ .insn i :: later ∧
        Records arch (Reading.lookbehind earlier) i kind q := by
  cases arch with
  | amd64 =>
    simp only [Prologue.scan, Reading.mem_collect, Amd64.mem_prologuesAt, exists_and_left]
  | arm64 =>
    simp only [Prologue.scan, Reading.mem_collect, Arm64.mem_prologuesAt, exists_and_left]

end EntryScan
