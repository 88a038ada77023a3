import EntryScan.Instruction

/-!
# EntryScan.Arm64.Operand

Registers and operands of A64 instructions and their text in assembly.
-/

namespace EntryScan
namespace Arm64

/-- What register 31 stands for. -/
inductive Last where
  | zero
  | stack
deriving DecidableEq, Repr

/-- The register of a number; `wide` registers have 64 bits. -/
def registerName (wide : Bool) (last : Last) (n : Nat) : String :=
  if n = 31 then
    match last, wide with
    | .zero, true => "xzr"
    | .zero, false => "wzr"
    | .stack, true => "sp"
    | .stack, false => "wsp"
  else (if wide then "x" else "w") ++ toString n

/-- The register that a name stands for; the frame pointer and the link register have names of
their own. -/
def canonicalName : String → String
  | "fp" => "x29"
  | "lr" => "x30"
  | name => name

def immText (v : Int) : String := "#" ++ Number.operand v

/-- An argument of an instruction. Labels are distances from the instruction, page labels
distances from the start of its 4096-byte page. -/
inductive Arg where
  | reg (name : String)
  /-- A register with an extension or shift after it. -/
  | extended (name : String) (suffix : String)
  | imm (value : Int)
  /-- An immediate with a shift after it. -/
  | shifted (value : Int) (amount : Nat)
  /-- A memory operand at a base; `preIndexed` writes the address back first. -/
  | mem (base : String) (disp : Int) (preIndexed : Bool)
  | label (distance : Int)
  | page (distance : Int)
deriving DecidableEq, Repr

namespace Arg

def pageTarget (address distance : Int) : Int :=
  Address.wrap (address - Address.wrap address % 4096 + distance)

/-- The operand an argument denotes in an instruction at `address`. -/
def operand (address : Int) : Arg → Operand
  | .reg name => .reg name
  | .extended name _ => .reg name
  | .imm value => .imm value
  | .shifted value _ => .imm value
  | .mem base disp _ => .mem (some base) disp
  | .label distance => .imm (Address.wrap (address + distance))
  | .page distance => .imm (pageTarget address distance)

def text (address : Int) : Arg → String
  | .reg name => name
  | .extended name suffix => name ++ ", " ++ suffix
  | .imm value => immText value
  | .shifted value amount => immText value ++ s!", lsl #{amount}"
  | .mem base disp true => "[" ++ base ++ ", " ++ immText disp ++ "]!"
  | .mem base disp false =>
    if disp = 0 then "[" ++ base ++ "]" else "[" ++ base ++ ", " ++ immText disp ++ "]"
  | .label distance => immText (Address.wrap (address + distance))
  | .page distance => immText (pageTarget address distance)

end Arg

structure Body where
  operation : String
  mnemonic : String
  args : List Arg
deriving DecidableEq, Repr

namespace Body

/-- An instruction whose mnemonic is its operation in lower case. -/
def plain (operation : String) (args : List Arg) : Body :=
  ⟨operation, Text.lowerAscii operation, args⟩

def place (b : Body) (address : Int) : Instruction where
  address := Address.wrap address
  operation := b.operation
  mnemonic := b.mnemonic
  operandText := ", ".intercalate (b.args.map (Arg.text address))
  operands := b.args.map (Arg.operand address)

end Body
end Arm64
end EntryScan
