import EntryScan.Address

/-!
# EntryScan.Instruction

Decoded instructions, as far as detection looks at them, and the readings of a sweep. One type
serves both architectures: the decoders produce it, and the detectors take it from any source.
-/

namespace EntryScan

/-- An operand. A memory operand is known by its base register and its signed displacement;
index and segment registers do not matter to detection. -/
inductive Operand where
  | reg (name : String)
  | imm (value : Int)
  | mem (base : Option String) (disp : Int)
deriving DecidableEq, Repr

namespace Operand

def isReg (name : String) : Operand → Bool
  | .reg r => r == name
  | _ => false

def imm? : Operand → Option Int
  | .imm v => some v
  | _ => none

end Operand

/-- A decoded instruction. `operation` is the name of what it does, in capitals; spellings such
as `b` and `b.eq`, or `bnd call` and `call`, share one operation. -/
structure Instruction where
  address : Int
  operation : String
  mnemonic : String
  operandText : String
  operands : List Operand
deriving DecidableEq, Repr

namespace Instruction

def text (i : Instruction) : String :=
  if i.operandText.isEmpty then i.mnemonic else i.mnemonic ++ " " ++ i.operandText

def operand? (i : Instruction) (index : Nat) : Option Operand := i.operands[index]?

def hasReg (i : Instruction) (index : Nat) (name : String) : Bool :=
  match i.operand? index with
  | some o => o.isReg name
  | none => false

end Instruction

/-- What a sweep finds at one position: bytes that do not decode, a marker that no pattern
sees, or an instruction. -/
inductive Reading where
  | failed
  | marker
  | insn (i : Instruction)
deriving DecidableEq, Repr

/-- An instruction and the number of bytes it takes. -/
structure Decoded where
  insn : Instruction
  size : Nat
deriving DecidableEq, Repr

end EntryScan
