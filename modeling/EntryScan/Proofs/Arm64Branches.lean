import EntryScan.Proofs.Assembly
import EntryScan.Proofs.Portable

/-!
# EntryScan.Proofs.Arm64Branches

Direct A64 branches, from their words back to their edges.

* `Arm64.DirectBranch`: the branches, with the words that encode them.
* `Arm64.DirectBranch.branch?_word`: every field of a word is read back.
* `Arm64.DirectBranch.code`: so a program of them can be swept, and
  `Toolbox.detectCallSites_directBranchWords` says what is found.
-/

namespace EntryScan

namespace Arm64

/-- A direct branch. A condition is named by its number; `cbz` and `tbz` stand for `cbnz` and `tbnz`
too, where they branch on what is not zero. -/
inductive DirectBranch where
  | b (imm : BitVec 26)
  | bl (imm : BitVec 26)
  | bCond (c : Fin 16) (imm : BitVec 19)
  | cbz (nonzero wide : Bool) (r : Fin 32) (imm : BitVec 19)
  | tbz (nonzero : Bool) (number : Fin 64) (r : Fin 32) (imm : BitVec 14)
deriving DecidableEq, Repr

namespace DirectBranch

/-- The instruction word. The number of a bit has its top bit at the top of the word. -/
def word : DirectBranch → Nat
  | .b imm => 0x14000000 + imm.toNat
  | .bl imm => 0x94000000 + imm.toNat
  | .bCond c imm => 0x54000000 + 2 ^ 5 * imm.toNat + c
  | .cbz nonzero wide r imm =>
    0x34000000 + 2 ^ 31 * wide.toNat + 2 ^ 24 * nonzero.toNat + 2 ^ 5 * imm.toNat + r
  | .tbz nonzero number r imm =>
    0x36000000 + 2 ^ 31 * (number / 32) + 2 ^ 24 * nonzero.toNat + 2 ^ 19 * (number % 32) +
      2 ^ 5 * imm.toNat + r

/-- The word as code, with the least byte first. -/
def encode (b : DirectBranch) : List UInt8 := Bytes.toLittleEndian 4 b.word

/-- The signed immediate, which counts words. -/
def immediate : DirectBranch → Int
  | .b imm | .bl imm => imm.toInt
  | .bCond _ imm | .cbz _ _ _ imm => imm.toInt
  | .tbz _ _ _ imm => imm.toInt

def role : DirectBranch → Branch
  | .b _ => .jump
  | .bl _ => .call
  | .bCond _ _ | .cbz _ _ _ _ | .tbz _ _ _ _ => .conditional

/-- What the branch is decoded as. -/
def body : DirectBranch → Body
  | .b imm => .plain "B" [wordLabel imm.toInt]
  | .bl imm => .plain "BL" [wordLabel imm.toInt]
  | .bCond c imm => ⟨"B", "b." ++ conditions.getD c "", [wordLabel imm.toInt]⟩
  | .cbz nonzero wide r imm =>
    .plain (if nonzero then "CBNZ" else "CBZ") [reg wide r, wordLabel imm.toInt]
  | .tbz nonzero number r imm =>
    .plain (if nonzero then "TBNZ" else "TBZ")
      [reg (32 ≤ number.val) r, .imm number, wordLabel imm.toInt]

/-! ## Reading back -/

theorem field_eq (w low width : Nat) : field w low width = w / 2 ^ low % 2 ^ width := by
  rw [field, Nat.shiftRight_eq_div_pow, Nat.one_shiftLeft]

theorem signedField_eq {w low width : Nat} {x : BitVec width} (hwidth : 0 < width)
    (h : field w low width = x.toNat) : signedField w low width = x.toInt := by
  rw [signedField, h, Bytes.signExtend_toNat x hwidth]

theorem bit_eq {w n : Nat} {x : Bool} (h : field w n 1 = x.toNat) : bit w n = x := by
  rw [bit, h]
  cases x <;> rfl

theorem word_lt (b : DirectBranch) : b.word < 2 ^ 32 := by
  cases b with
  | b imm =>
    have himm := imm.isLt
    simp only [word]
    omega
  | bl imm =>
    have himm := imm.isLt
    simp only [word]
    omega
  | bCond c imm =>
    have himm := imm.isLt
    have hc := c.isLt
    simp only [word]
    omega
  | cbz nonzero wide r imm =>
    have himm := imm.isLt
    have hr := r.isLt
    have hwide := wide.toNat_le
    have hnonzero := nonzero.toNat_le
    simp only [word]
    omega
  | tbz nonzero number r imm =>
    have himm := imm.isLt
    have hr := r.isLt
    have hnumber := number.isLt
    have hnonzero := nonzero.toNat_le
    simp only [word]
    omega

theorem branch?_word_b (imm : BitVec 26) : branch? (b imm).word = some (b imm).body := by
  have himm := imm.isLt
  have htop : field (b imm).word 26 6 = 0b000101 := by
    rw [field_eq, word]
    omega
  have hlabel : signedField (b imm).word 0 26 = imm.toInt := by
    refine signedField_eq (by decide) ?_
    rw [field_eq, word]
    omega
  rw [branch?, if_pos htop, hlabel]
  rfl

theorem branch?_word_bl (imm : BitVec 26) : branch? (bl imm).word = some (bl imm).body := by
  have himm := imm.isLt
  have htop : field (bl imm).word 26 6 = 0b100101 := by
    rw [field_eq, word]
    omega
  have hlabel : signedField (bl imm).word 0 26 = imm.toInt := by
    refine signedField_eq (by decide) ?_
    rw [field_eq, word]
    omega
  rw [branch?, if_neg (by omega), if_pos htop, hlabel]
  rfl

theorem branch?_word_bCond (c : Fin 16) (imm : BitVec 19) :
    branch? (bCond c imm).word = some (bCond c imm).body := by
  have himm := imm.isLt
  have hc := c.isLt
  have htop : field (bCond c imm).word 26 6 = 0b010101 := by
    rw [field_eq, word]
    omega
  have hgroup : field (bCond c imm).word 24 8 = 0b01010100 := by
    rw [field_eq, word]
    omega
  have hplain : bit (bCond c imm).word 4 = false := by
    refine bit_eq ?_
    rw [field_eq, word, Bool.toNat_false]
    omega
  have hcond : field (bCond c imm).word 0 4 = c := by
    rw [field_eq, word]
    omega
  have hlabel : signedField (bCond c imm).word 5 19 = imm.toInt := by
    refine signedField_eq (by decide) ?_
    rw [field_eq, word]
    omega
  rw [branch?, if_neg (by omega), if_neg (by omega), if_pos hgroup, hplain, hcond, hlabel]
  rfl

theorem branch?_word_cbz (nonzero wide : Bool) (r : Fin 32) (imm : BitVec 19) :
    branch? (cbz nonzero wide r imm).word = some (cbz nonzero wide r imm).body := by
  have himm := imm.isLt
  have hr := r.isLt
  have hwide := wide.toNat_le
  have hnonzero := nonzero.toNat_le
  generalize hw : (cbz nonzero wide r imm).word = w
  rw [word] at hw
  have htop : field w 26 6 ≠ 0b000101 ∧ field w 26 6 ≠ 0b100101 ∧ field w 24 8 ≠ 0b01010100 := by
    simp only [field_eq]
    omega
  have hgroup : field w 25 6 = 0b011010 := by
    rw [field_eq]
    omega
  have hkind : bit w 24 = nonzero := by
    refine bit_eq ?_
    rw [field_eq]
    omega
  have hsize : bit w 31 = wide := by
    refine bit_eq ?_
    rw [field_eq]
    omega
  have hreg : field w 0 5 = r := by
    rw [field_eq]
    omega
  have hlabel : signedField w 5 19 = imm.toInt := by
    refine signedField_eq (by decide) ?_
    rw [field_eq]
    omega
  rw [branch?, if_neg htop.1, if_neg htop.2.1, if_neg htop.2.2, if_pos hgroup, hkind, hsize, hreg,
    hlabel]
  rfl

theorem branch?_word_tbz (nonzero : Bool) (number : Fin 64) (r : Fin 32) (imm : BitVec 14) :
    branch? (tbz nonzero number r imm).word = some (tbz nonzero number r imm).body := by
  have himm := imm.isLt
  have hr := r.isLt
  have hnumber := number.isLt
  have hnonzero := nonzero.toNat_le
  generalize hw : (tbz nonzero number r imm).word = w
  rw [word] at hw
  have htop : field w 26 6 ≠ 0b000101 ∧ field w 26 6 ≠ 0b100101 ∧ field w 24 8 ≠ 0b01010100 ∧
      field w 25 6 ≠ 0b011010 := by
    simp only [field_eq]
    omega
  have hgroup : field w 25 6 = 0b011011 := by
    rw [field_eq]
    omega
  have hkind : bit w 24 = nonzero := by
    refine bit_eq ?_
    rw [field_eq]
    omega
  -- the top bit of the number also tells the width of the register
  have hhigh : field w 31 1 = number / 32 := by
    rw [field_eq]
    omega
  have hlow : field w 19 5 = number % 32 := by
    rw [field_eq]
    omega
  have hsize : bit w 31 = decide (32 ≤ number.val) := by
    rw [bit, hhigh, decide_eq_decide]
    omega
  have hreg : field w 0 5 = r := by
    rw [field_eq]
    omega
  have hlabel : signedField w 5 14 = imm.toInt := by
    refine signedField_eq (by decide) ?_
    rw [field_eq]
    omega
  rw [branch?, if_neg htop.1, if_neg htop.2.1, if_neg htop.2.2.1, if_neg htop.2.2.2, if_pos hgroup,
    hkind, hsize, hreg, hlabel, hhigh, hlow, Nat.div_add_mod]
  rfl

theorem branch?_word (b : DirectBranch) : branch? b.word = some b.body := by
  cases b with
  | b imm => exact branch?_word_b imm
  | bl imm => exact branch?_word_bl imm
  | bCond c imm => exact branch?_word_bCond c imm
  | cbz nonzero wide r imm => exact branch?_word_cbz nonzero wide r imm
  | tbz nonzero number r imm => exact branch?_word_tbz nonzero number r imm

theorem length_encode (b : DirectBranch) : b.encode.length = 4 :=
  Bytes.length_toLittleEndian 4 b.word

theorem decode?_encode (b : DirectBranch) (address : Int) :
    decode? b.encode address = some ⟨b.body.place address, 4⟩ := by
  have hword : Bytes.littleEndian b.encode = b.word :=
    Bytes.littleEndian_toLittleEndian 4 _ b.word_lt
  have hbody : decodeWord? b.word = some b.body := by
    rw [decodeWord?, branch?_word]
    rfl
  rw [decode?, wordSize, if_neg (by rw [length_encode]; decide),
    List.take_of_length_le (le_of_eq b.length_encode), hword, hbody]
  rfl

theorem readFront_encode (b : DirectBranch) (rest : List UInt8) (address : Int) :
    Sweep.readFront {} .arm64 (b.encode ++ rest) address =
      (.insn (b.body.place address), b.encode.length) := by
  have hroom : Sweep.needed {} .arm64 ≤ b.encode.length := le_of_eq b.length_encode.symm
  have hwindow : (b.encode ++ rest).take (Sweep.windowSize {} .arm64) = b.encode :=
    List.take_left' b.length_encode
  rw [length_encode]
  refine Sweep.readFront_of_decode? (by decide) hroom rfl ?_
  rw [hwindow]
  exact b.decode?_encode address

/-- Whatever stands before it, the label comes last. -/
theorem args_body (b : DirectBranch) :
    ∃ first, b.body.args = first ++ [.label (4 * b.immediate)] := by
  cases b with
  | b imm => exact ⟨[], rfl⟩
  | bl imm => exact ⟨[], rfl⟩
  | bCond c imm => exact ⟨[], rfl⟩
  | cbz nonzero wide r imm => exact ⟨[_], rfl⟩
  | tbz nonzero number r imm => exact ⟨[_, _], rfl⟩

/-- What an instruction does shows in its operation and its mnemonic. -/
def named (operation mnemonic : String) : Instruction := ⟨0, operation, mnemonic, "", []⟩

theorem of?_place (b : DirectBranch) (address : Int) :
    Branch.of? .arm64 (b.body.place address) = some b.role := by
  have hnamed : ∀ body : Body, Branch.of? .arm64 (body.place address) =
      Branch.of? .arm64 (named body.operation body.mnemonic) := fun _ => rfl
  rw [hnamed]
  cases b with
  | b imm =>
    have hplain : Branch.of? .arm64 (named "B" (Text.lowerAscii "B")) = some .jump := by decide
    exact hplain
  | bl imm => rfl
  | bCond c imm =>
    have hcond : ∀ c : Fin 16, Branch.of? .arm64 (named "B" ("b." ++ conditions.getD c "")) =
        some .conditional := by decide
    exact hcond c
  | cbz nonzero wide r imm => cases nonzero <;> rfl
  | tbz nonzero number r imm => cases nonzero <;> rfl

/-- Direct branches as code that is read back. -/
def code : BranchCode .arm64 DirectBranch where
  encode := encode
  role := role
  distance b := 4 * b.immediate
  room b := le_of_eq b.length_encode.symm
  reads b rest address := by
    refine ⟨b.body.place address, b.readFront_encode rest address, rfl, b.of?_place address, ?_,
      rfl⟩
    obtain ⟨first, hargs⟩ := b.args_body
    exact target?_of_label hargs

/-- What is found at a branch: the kind of edge, the confidence in it, and whether it is taken on a
condition. -/
def finding : DirectBranch → EdgeKind × Confidence × Bool
  | .b _ => (.jump, .medium, false)
  | .bl _ => (.call, .high, false)
  | .bCond _ _ | .cbz _ _ _ _ | .tbz _ _ _ _ => (.jump, .low, true)

theorem length_flatMap_encode (prog : List DirectBranch) :
    (prog.flatMap encode).length = 4 * prog.length := by
  induction prog with
  | nil => rfl
  | cons b prog ih =>
    rw [List.flatMap_cons, List.length_append, length_encode, ih, List.length_cons]
    omega

end DirectBranch
end Arm64

/-- **Direct branches are found again.** A program of direct A64 branches at any base gives one edge
a word, in order, from where the word stands to its label. The number of a bit is no target, and a
branch on a condition is conditional. -/
theorem Toolbox.detectCallSites_directBranchWords {tag : String}
    (htag : Arch.parse? tag = some .arm64) (prog : List Arm64.DirectBranch) (base : Int) :
    ∃ es, (detectCallSites {} (prog.flatMap (·.encode)) base tag).outcome.1 = .ok es ∧
      es.length = prog.length ∧
      ∀ (before after : List Arm64.DirectBranch) (b : Arm64.DirectBranch),
        prog = before ++ b :: after → ∃ e, es[before.length]? = some e ∧
          e.source = (base + 4 * before.length) % 2 ^ 64 ∧
          e.target = some ((e.source + 4 * b.immediate) % 2 ^ 64) ∧
          e.mode = .pcRelative ∧ (e.kind, e.confidence, e.conditional) = b.finding := by
  obtain ⟨es, hes, hlisting⟩ := Arm64.DirectBranch.code.detectCallSites_flatMap htag prog base
  refine ⟨es, hes, hlisting.length_eq, ?_⟩
  intro before after b hprog
  obtain ⟨e, he, hedge⟩ := hlisting.getElem? before b after hprog
  refine ⟨e, he, ?_, hedge.target, hedge.mode, ?_⟩
  · have hlength : (before.flatMap Arm64.DirectBranch.code.encode).length = 4 * before.length :=
      Arm64.DirectBranch.length_flatMap_encode before
    rw [hedge.source, hlength, Nat.cast_mul]
    rfl
  · rw [hedge.kind, hedge.confidence, hedge.conditional]
    cases b <;> rfl

/-- `b.eq` to the word behind it, at the top of the address space, and at its bottom `tbnz x9, #63`
four words back. -/
theorem Toolbox.detectCallSites_directBranchWords_across_top :
    ∃ (es : List CallSite) (e : CallSite),
      (detectCallSites {} [0x20, 0x00, 0x00, 0x54, 0x89, 0xff, 0xff, 0xb7] (-4)
        "arm64").outcome.1 = .ok es ∧
      es.length = 2 ∧ es[1]? = some e ∧ e.source = 0 ∧ e.target = some (2 ^ 64 - 16) ∧
      e.mode = .pcRelative ∧ (e.kind, e.confidence, e.conditional) = (.jump, .low, true) := by
  obtain ⟨es, hes, hlength, hedges⟩ := detectCallSites_directBranchWords
    (by decide : Arch.parse? "arm64" = some .arm64) [.bCond 0 1, .tbz true 63 9 (-4)] (-4)
  obtain ⟨e, he, hsource, htarget, hmode, hfinding⟩ := hedges [.bCond 0 1] [] _ rfl
  have hzero : e.source = 0 := by
    rw [hsource]
    decide
  refine ⟨es, e, hes, hlength, he, hzero, ?_, hmode, hfinding⟩
  rw [htarget, hzero]
  decide

end EntryScan
