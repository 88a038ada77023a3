import EntryScan.Proofs.Assembly
import EntryScan.Proofs.Portable

/-!
# EntryScan.Proofs.Amd64Branches

Direct x86-64 branches without prefixes, from their encodings back to their edges.

* `Amd64.DirectBranch`: the branches, with what an assembler writes for them.
* `Amd64.DirectBranch.readBody_encode`: the decoder reads each of them back.
* `Amd64.DirectBranch.code`: so a program of them can be swept, and
  `Toolbox.detectCallSites_directBranches` says what is found.
-/

namespace EntryScan

namespace Amd64

/-- A direct branch without prefixes. A condition is named by its number, and so is one of `loopne`,
`loope`, `loop` and `jrcxz`. -/
inductive DirectBranch where
  | call (d : BitVec 32)
  | jump (d : BitVec 32)
  | shortJump (d : BitVec 8)
  | cond (c : Fin 16) (d : BitVec 32)
  | shortCond (c : Fin 16) (d : BitVec 8)
  | loop (c : Fin 4) (d : BitVec 8)
deriving DecidableEq, Repr

namespace DirectBranch

def opcode : DirectBranch → List UInt8
  | .call _ => [0xe8]
  | .jump _ => [0xe9]
  | .shortJump _ => [0xeb]
  | .cond c _ => [0x0f, UInt8.ofNat (0x80 + c)]
  | .shortCond c _ => [UInt8.ofNat (0x70 + c)]
  | .loop c _ => [UInt8.ofNat (0xe0 + c)]

/-- The number of bytes of the displacement. -/
def width : DirectBranch → Nat
  | .call _ | .jump _ | .cond _ _ => 4
  | .shortJump _ | .shortCond _ _ | .loop _ _ => 1

/-- The displacement as bits. -/
def bits : DirectBranch → Nat
  | .call d | .jump d | .cond _ d => d.toNat
  | .shortJump d | .shortCond _ d | .loop _ d => d.toNat

/-- The displacement, from the end of the branch to its target. -/
def displacement : DirectBranch → Int
  | .call d | .jump d | .cond _ d => d.toInt
  | .shortJump d | .shortCond _ d | .loop _ d => d.toInt

/-- The branch as code: its opcode, and its displacement with the least byte first. -/
def encode (b : DirectBranch) : List UInt8 := b.opcode ++ Bytes.toLittleEndian b.width b.bits

def operation : DirectBranch → String
  | .call _ => "CALL"
  | .jump _ | .shortJump _ => "JMP"
  | .cond c _ | .shortCond c _ => "J" ++ condition c
  | .loop c _ => ["LOOPNE", "LOOPE", "LOOP", "JRCXZ"].getD c ""

def role : DirectBranch → Branch
  | .call _ => .call
  | .jump _ | .shortJump _ => .jump
  | .cond _ _ | .shortCond _ _ | .loop _ _ => .conditional

/-- What the branch is decoded as. -/
def body (b : DirectBranch) : Body := ⟨b.operation, mnemonic {} b.operation, [.rel b.displacement]⟩

/-! ## Reading back -/

theorem readBody_one {p : Prefixes} {op : UInt8} (h : op.toNat ≠ 0x0f) (rest : List UInt8) :
    readBody p (op :: rest) = oneByte p op.toNat rest := by
  simp [readBody, bind, StateT.bind, Reader.byte, h]

theorem readBody_two (p : Prefixes) (op : UInt8) (rest : List UInt8) :
    readBody p (0x0f :: op :: rest) = twoByte p op.toNat rest := by
  simp [readBody, bind, StateT.bind, Reader.byte]

theorem condition_add {n c : Nat} (hn : n % 16 = 0) : condition (n + c) = condition c := by
  rw [condition, condition, Nat.add_mod, hn, Nat.zero_add, Nat.mod_mod]

theorem oneByte_shortCond (c : Fin 16) :
    oneByte {} (0x70 + c) = relative {} ("J" ++ condition c) 1 := by
  have hc := c.isLt
  unfold oneByte
  rw [if_neg (by omega), if_neg (by omega), if_neg (by omega), if_pos (by omega),
    condition_add (by decide)]

theorem twoByte_cond (c : Fin 16) :
    twoByte {} (0x80 + c) = relative {} ("J" ++ condition c) 4 := by
  have hc := c.isLt
  unfold twoByte
  rw [if_neg (by omega), if_pos (by omega), condition_add (by decide)]

theorem toNat_ofNat_add {n c : Nat} (h : n + c < 256) : (UInt8.ofNat (n + c)).toNat = n + c := by
  simp [Nat.mod_eq_of_lt h]

/-- The opcode tells the operation and the width of the displacement. -/
theorem readBody_opcode (b : DirectBranch) (rest : List UInt8) :
    readBody {} (b.opcode ++ rest) = relative {} b.operation b.width rest := by
  cases b with
  | call d => rfl
  | jump d => rfl
  | shortJump d => rfl
  | cond c d =>
    have hc := c.isLt
    rw [opcode, List.cons_append, List.cons_append, List.nil_append, readBody_two,
      toNat_ofNat_add (by omega), twoByte_cond]
    rfl
  | shortCond c d =>
    have hc := c.isLt
    have hop := toNat_ofNat_add (show 0x70 + c.val < 256 by omega)
    rw [opcode, List.cons_append, List.nil_append, readBody_one (by omega), hop, oneByte_shortCond]
    rfl
  | loop c d => -- four opcodes with an operation each
    fin_cases c <;> rfl

theorem signed_bits (b : DirectBranch) (tail : List UInt8) :
    Reader.signed b.width (Bytes.toLittleEndian b.width b.bits ++ tail) =
      some (b.displacement, tail) := by
  cases b <;> exact Reader.signed_toLittleEndian (Nat.succ_pos _) _ tail

theorem readBody_encode (b : DirectBranch) (tail : List UInt8) :
    readBody {} (b.encode ++ tail) = some (b.body, tail) := by
  rw [encode, List.append_assoc, readBody_opcode, relative]
  simp only [bind, StateT.bind, signed_bits]
  rfl

/-- No direct branch begins with a prefix. -/
theorem encode_eq_cons (b : DirectBranch) :
    ∃ op more, b.encode = op :: more ∧ Prefixes.add? {} op.toNat = none := by
  cases b with
  | call d => exact ⟨0xe8, _, rfl, by decide⟩
  | jump d => exact ⟨0xe9, _, rfl, by decide⟩
  | shortJump d => exact ⟨0xeb, _, rfl, by decide⟩
  | cond c d => exact ⟨0x0f, _, rfl, by decide⟩
  | shortCond c d => exact ⟨UInt8.ofNat (0x70 + c), _, rfl, by revert c; decide⟩
  | loop c d => exact ⟨UInt8.ofNat (0xe0 + c), _, rfl, by revert c; decide⟩

theorem scan_encode (b : DirectBranch) (tail : List UInt8) :
    Prefixes.scan {} (b.encode ++ tail) = ({}, b.encode ++ tail) := by
  obtain ⟨op, more, hencode, hop⟩ := b.encode_eq_cons
  simp only [hencode, List.cons_append, Prefixes.scan, hop]

/-- A marker begins with a prefix. -/
theorem atMarker_encode (b : DirectBranch) (rest : List UInt8) :
    Sweep.atMarker {} .amd64 (b.encode ++ rest) = false := by
  obtain ⟨op, more, hencode, hop⟩ := b.encode_eq_cons
  have hne : op ≠ 0xf3 := by
    rintro rfl
    exact absurd hop (by decide)
  simp [Sweep.atMarker, hencode, hne]

theorem length_encode_le (b : DirectBranch) : b.encode.length ≤ 6 := by
  rw [encode, List.length_append, Bytes.length_toLittleEndian]
  cases b <;> simp [opcode, width]

theorem length_encode_pos (b : DirectBranch) : 0 < b.encode.length := by
  rw [encode, List.length_append]
  cases b <;> exact Nat.succ_pos _

/-- The window reaches beyond a branch. -/
theorem take_encode (b : DirectBranch) (tail : List UInt8) :
    (b.encode ++ tail).take 15 = b.encode ++ tail.take (15 - b.encode.length) := by
  have hle := b.length_encode_le
  rw [List.take_append, List.take_of_length_le (by omega)]

theorem decodeBody?_encode (b : DirectBranch) (tail : List UInt8) :
    decodeBody? (b.encode ++ tail) = some (b.body, b.encode.length) := by
  rw [decodeBody?, maxLength, take_encode]
  simp only [scan_encode, StateT.run, readBody_encode, List.length_append, Nat.add_sub_cancel]

theorem readFront_encode (b : DirectBranch) (rest : List UInt8) (address : Int) :
    Sweep.readFront {} .amd64 (b.encode ++ rest) address =
      (.insn (b.body.place address b.encode.length), b.encode.length) := by
  have hroom : Sweep.needed {} .amd64 ≤ b.encode.length := b.length_encode_pos
  refine Sweep.readFront_of_decode? (by decide) hroom (b.atMarker_encode rest) ?_
  simp only [Decoder.standard, decode?, Sweep.windowSize, take_encode, decodeBody?_encode]
  rfl

/-- The operation is listed as what the branch does, and as nothing else. -/
abbrev Listed (operation : String) (role : Branch) : Prop :=
  Branch.amd64Calls.contains operation = decide (role = .call) ∧
  Branch.amd64Conditionals.contains operation = decide (role = .conditional) ∧
  Branch.amd64Jumps.contains operation = decide (role = .jump) ∧
  Branch.amd64Far.contains operation = false

theorem listed_operation (b : DirectBranch) : Listed b.operation b.role := by
  have hcond : ∀ c : Fin 16, Listed ("J" ++ condition c) .conditional := by decide
  have hloop : ∀ c : Fin 4,
      Listed (["LOOPNE", "LOOPE", "LOOP", "JRCXZ"].getD c "") .conditional := by decide
  cases b with
  | call d => exact (by decide : Listed "CALL" .call)
  | jump d => exact (by decide : Listed "JMP" .jump)
  | shortJump d => exact (by decide : Listed "JMP" .jump)
  | cond c d => exact hcond c
  | shortCond c d => exact hcond c
  | loop c d => exact hloop c

theorem of?_place (b : DirectBranch) (address : Int) (size : Nat) :
    Branch.of? .amd64 (b.body.place address size) = some b.role := by
  obtain ⟨hcall, hcond, hjump, -⟩ := b.listed_operation
  simp only [Branch.of?, Body.place, body, hcall, hcond, hjump]
  cases b.role <;> rfl

theorem modeOf_place (b : DirectBranch) (address : Int) (size : Nat) :
    CallSite.modeOf .amd64 (b.body.place address size) = .pcRelative := by
  obtain ⟨-, -, -, hfar⟩ := b.listed_operation
  simp only [CallSite.modeOf, Body.place, body, hfar]
  rfl

/-- Direct branches as code that is read back. -/
def code : BranchCode .amd64 DirectBranch where
  encode := encode
  role := role
  distance b := b.encode.length + b.displacement
  room := length_encode_pos
  reads b rest address := by
    refine ⟨b.body.place address b.encode.length, b.readFront_encode rest address, rfl,
      b.of?_place address _, ?_, b.modeOf_place address _⟩
    rw [target?_of_rel rfl, add_assoc]

/-- What is found at a branch: the kind of edge, the confidence in it, and whether it is taken on a
condition. -/
def finding : DirectBranch → EdgeKind × Confidence × Bool
  | .call _ => (.call, .high, false)
  | .jump _ | .shortJump _ => (.jump, .medium, false)
  | .cond _ _ | .shortCond _ _ | .loop _ _ => (.jump, .low, true)

end DirectBranch
end Amd64

/-- **Direct branches are found again.** A program of direct branches at any base gives one edge a
branch, in order, from where the branch stands to its displacement behind its end. -/
theorem Toolbox.detectCallSites_directBranches {tag : String} (htag : Arch.parse? tag = some .amd64)
    (prog : List Amd64.DirectBranch) (base : Int) :
    ∃ es, (detectCallSites {} (prog.flatMap (·.encode)) base tag).outcome.1 = .ok es ∧
      es.length = prog.length ∧
      ∀ (before after : List Amd64.DirectBranch) (b : Amd64.DirectBranch),
        prog = before ++ b :: after → ∃ e, es[before.length]? = some e ∧
          e.source = (base + (before.flatMap (·.encode)).length) % 2 ^ 64 ∧
          e.target = some ((e.source + b.encode.length + b.displacement) % 2 ^ 64) ∧
          e.mode = .pcRelative ∧ (e.kind, e.confidence, e.conditional) = b.finding := by
  obtain ⟨es, hes, hlisting⟩ := Amd64.DirectBranch.code.detectCallSites_flatMap htag prog base
  refine ⟨es, hes, hlisting.length_eq, ?_⟩
  intro before after b hprog
  obtain ⟨e, he, hedge⟩ := hlisting.getElem? before b after hprog
  refine ⟨e, he, hedge.source, ?_, hedge.mode, ?_⟩
  · rw [hedge.target, add_assoc]
    rfl
  · rw [hedge.kind, hedge.confidence, hedge.conditional]
    cases b <;> rfl

/-- A jump to itself that ends at the top of the address space, and a `jrcxz` at its bottom. -/
theorem Toolbox.detectCallSites_directBranches_across_top :
    ∃ (es : List CallSite) (e : CallSite),
      (detectCallSites {} [0xeb, 0xfe, 0xe3, 0x7f] (-2) "amd64").outcome.1 = .ok es ∧
      es.length = 2 ∧ es[1]? = some e ∧ e.source = 0 ∧ e.target = some 0x81 ∧
      e.mode = .pcRelative ∧ (e.kind, e.confidence, e.conditional) = (.jump, .low, true) := by
  obtain ⟨es, hes, hlength, hedges⟩ := detectCallSites_directBranches
    (by decide : Arch.parse? "amd64" = some .amd64) [.shortJump (-2), .loop 3 0x7f] (-2)
  obtain ⟨e, he, hsource, htarget, hmode, hfinding⟩ := hedges [.shortJump (-2)] [] _ rfl
  have hzero : e.source = 0 := by
    rw [hsource]
    decide
  refine ⟨es, e, hes, hlength, he, hzero, ?_, hmode, hfinding⟩
  rw [htarget, hzero]
  decide

end EntryScan
