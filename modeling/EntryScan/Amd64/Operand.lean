import EntryScan.Instruction

/-!
# EntryScan.Amd64.Operand

Registers and operands of x86-64 instructions and their text in assembly.
-/

namespace EntryScan
namespace Amd64

inductive Width where
  | byte
  | word
  | dword
  | qword
deriving DecidableEq, Repr

namespace Width

def bits : Width → Nat
  | .byte => 8
  | .word => 16
  | .dword => 32
  | .qword => 64

/-- The words before a memory operand of the width. -/
def sizeWords : Width → String
  | .byte => "byte ptr "
  | .word => "word ptr "
  | .dword => "dword ptr "
  | .qword => "qword ptr "

end Width

def qwordNames : List String :=
  ["rax", "rcx", "rdx", "rbx", "rsp", "rbp", "rsi", "rdi",
    "r8", "r9", "r10", "r11", "r12", "r13", "r14", "r15"]

def dwordNames : List String :=
  ["eax", "ecx", "edx", "ebx", "esp", "ebp", "esi", "edi",
    "r8d", "r9d", "r10d", "r11d", "r12d", "r13d", "r14d", "r15d"]

def wordNames : List String :=
  ["ax", "cx", "dx", "bx", "sp", "bp", "si", "di",
    "r8w", "r9w", "r10w", "r11w", "r12w", "r13w", "r14w", "r15w"]

/-- The 8-bit registers under a REX byte. -/
def byteNames : List String :=
  ["al", "cl", "dl", "bl", "spl", "bpl", "sil", "dil",
    "r8b", "r9b", "r10b", "r11b", "r12b", "r13b", "r14b", "r15b"]

/-- The 8-bit registers without a REX byte. -/
def legacyByteNames : List String :=
  ["al", "cl", "dl", "bl", "ah", "ch", "dh", "bh"]

/-- The register of a number; `rex` tells whether a REX byte is in force. -/
def registerName (width : Width) (rex : Bool) (n : Nat) : String :=
  let names :=
    match width with
    | .byte => if rex then byteNames else legacyByteNames
    | .word => wordNames
    | .dword => dwordNames
    | .qword => qwordNames
  names.getD n ""

structure MemRef where
  segment : Option String
  base : Option String
  index : Option String
  scale : Nat
  disp : Int
deriving DecidableEq, Repr

namespace MemRef

/-- The index and its scale; a scale of one is not written. -/
def indexText (name : String) (scale : Nat) : String :=
  if scale = 1 then name else name ++ "*" ++ toString scale

/-- The displacement after a register. -/
def dispText (disp : Int) : String :=
  if disp = 0 then ""
  else if disp < 0 then " - " ++ Number.operand (-disp)
  else " + " ++ Number.operand disp

def inner (m : MemRef) : String :=
  match m.base, m.index with
  | none, none => Number.operand (Address.wrap m.disp)
  | some b, none => b ++ dispText m.disp
  | none, some i => indexText i m.scale ++ dispText m.disp
  | some b, some i => b ++ " + " ++ indexText i m.scale ++ dispText m.disp

def text (m : MemRef) : String :=
  let segment := match m.segment with
    | some s => s ++ ":"
    | none => ""
  segment ++ "[" ++ m.inner ++ "]"

end MemRef

/-- An argument of an instruction. A relative argument is a distance from the instruction's
end. -/
inductive Arg where
  | reg (name : String)
  | imm (value : Int)
  | mem (sizeWords : String) (ref : MemRef)
  | rel (distance : Int)
deriving DecidableEq, Repr

namespace Arg

/-- The operand an argument denotes in an instruction that ends at `next`. -/
def operand (next : Int) : Arg → Operand
  | .reg name => .reg name
  | .imm value => .imm value
  | .mem _ ref => .mem ref.base ref.disp
  | .rel distance => .imm (Address.wrap (next + distance))

def text (next : Int) : Arg → String
  | .reg name => name
  | .imm value => Number.operand value
  | .mem sizeWords ref => sizeWords ++ ref.text
  | .rel distance => Number.operand (Address.wrap (next + distance))

end Arg

structure Body where
  operation : String
  mnemonic : String
  args : List Arg
deriving DecidableEq, Repr

namespace Body

/-- An instruction whose mnemonic is its operation in lower case. -/
def plain (operation : String) (args : List Arg) : Body :=
  ⟨operation, Text.lowerAscii operation, args⟩

/-- The instruction at an address, taking `size` bytes there. -/
def place (b : Body) (address : Int) (size : Nat) : Instruction where
  address := Address.wrap address
  operation := b.operation
  mnemonic := b.mnemonic
  operandText := ", ".intercalate (b.args.map (Arg.text (address + size)))
  operands := b.args.map (Arg.operand (address + size))

end Body
end Amd64
end EntryScan
