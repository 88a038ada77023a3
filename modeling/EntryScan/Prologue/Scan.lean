import EntryScan.Arch
import EntryScan.Lookbehind
import EntryScan.Prologue.Basic

/-!
# EntryScan.Prologue.Scan

The prologue patterns of both architectures. Each pattern looks at one instruction and the one
before it. Patterns that only make sense at a function's entry ask for a boundary: no instruction
before, or a return.

* x86-64: `push rbp; mov rbp, rsp`, `sub rsp, imm`, a push of a preserved register,
  `lea rsp, [rsp - disp]`.
* A64: `stp x29, x30, [sp, #-N]!` with and without `mov x29, sp` after it,
  `str x30, [sp, #-N]!`, `sub sp, sp, …`.
-/

namespace EntryScan

/-- The instruction before is missing or a return. -/
def atBoundary : Option Instruction → Bool
  | none => true
  | some i => i.operation == "RET"

namespace Prologue

def anchored (address : Int) (kind : PrologueKind) (text : String) : Prologue :=
  ⟨Address.wrap address, kind, text⟩

end Prologue

namespace Amd64

/-- A place for an allocation: a boundary, or after a push. -/
def allocates : Option Instruction → Bool
  | none => true
  | some i => i.operation == "RET" || i.operation == "PUSH"

def isPushRbp (i : Instruction) : Bool :=
  i.operation == "PUSH" && i.hasReg 0 "rbp"

def isMoveRbpRsp (i : Instruction) : Bool :=
  i.operation == "MOV" && i.operands.length == 2 && i.hasReg 0 "rbp" && i.hasReg 1 "rsp"

/-- `push rbp; mov rbp, rsp`, at the push. -/
def classic? (previous : Option Instruction) (i : Instruction) : Option Prologue :=
  match previous with
  | some p =>
    if isPushRbp p && isMoveRbpRsp i then
      some (.anchored p.address .classic (p.text ++ "; " ++ i.text))
    else none
  | none => none

/-- The amount that a `sub rsp` takes, when it is a positive number. -/
def allocation? (i : Instruction) : Option Int :=
  if i.operation == "SUB" && i.hasReg 0 "rsp" then
    match i.operand? 1 with
    | some (.imm v) => if 0 < Address.signed v then some (Address.signed v) else none
    | _ => none
  else none

/-- `sub rsp, imm` where an allocation may stand. -/
def noFramePointer? (previous : Option Instruction) (i : Instruction) : Option Prologue :=
  match allocation? i with
  | some amount =>
    if allocates previous then
      some (.anchored i.address .noFramePointer ("sub rsp, " ++ Number.hex amount))
    else none
  | none => none

/-- A push of a preserved register at a boundary. -/
def pushOnly? (preserved : List String) (previous : Option Instruction) (i : Instruction) :
    Option Prologue :=
  match i.operands with
  | .reg r :: _ =>
    if i.operation == "PUSH" && isPreserved preserved r && atBoundary previous then
      some (.anchored i.address .pushOnly ("push " ++ r))
    else none
  | _ => none

/-- `lea rsp, [rsp - disp]`. -/
def isStackLea (i : Instruction) : Bool :=
  i.operation == "LEA" && i.hasReg 0 "rsp" &&
    match i.operand? 1 with
    | some (.mem base disp) => base == some "rsp" && disp < 0
    | _ => false

/-- `lea rsp, [rsp - disp]` where an allocation may stand. -/
def leaBased? (previous : Option Instruction) (i : Instruction) : Option Prologue :=
  if isStackLea i && allocates previous then some (.anchored i.address .leaBased i.text) else none

/-- The matches that an instruction completes. -/
def prologuesAt (preserved : List String) (previous : Option Instruction) (i : Instruction) :
    List Prologue :=
  [classic? previous i, noFramePointer? previous i, pushOnly? preserved previous i,
    leaBased? previous i].filterMap id

end Amd64

namespace Arm64

/-- The text of the operands ends in the mark of a pre-indexed address. -/
def marksPreIndex (i : Instruction) : Bool :=
  (Text.dropEndWhile Text.isBlank i.operandText.toList).getLast? == some '!'

/-- The operand at an index moves the stack pointer down before the access. -/
def lowersStack (i : Instruction) (index : Nat) : Bool :=
  match i.operand? index with
  | some (.mem base disp) => base == some "sp" && disp < 0 && marksPreIndex i
  | _ => false

/-- `stp x29, x30, [sp, #-N]!`. -/
def isFrameStore (i : Instruction) : Bool :=
  i.operation == "STP" && i.hasReg 0 "x29" && i.hasReg 1 "x30" && lowersStack i 2

/-- `mov x29, sp`, or `add x29, sp, #0`, which does the same. -/
def isFrameMove (i : Instruction) : Bool :=
  i.hasReg 0 "x29" && i.hasReg 1 "sp" &&
    (i.operation == "MOV" && i.operands.length == 2 ||
      i.operation == "ADD" && i.operands.length == 3 && i.operand? 2 == some (.imm 0))

/-- A frame store, told apart by the instruction after it, at the store. -/
def frame? (previous : Option Instruction) (i : Instruction) : Option Prologue :=
  match previous with
  | some p =>
    if isFrameStore p then
      if isFrameMove i then some (.anchored p.address .stpFramePair (p.text ++ "; " ++ i.text))
      else some (.anchored p.address .stpOnly p.text)
    else none
  | none => none

/-- `str x30, [sp, #-N]!` at a boundary. -/
def strLr? (previous : Option Instruction) (i : Instruction) : Option Prologue :=
  if i.operation == "STR" && i.hasReg 0 "x30" && lowersStack i 1 && atBoundary previous then
    some (.anchored i.address .strLrPreindex i.text)
  else none

/-- `sub sp, sp, …` at a boundary. -/
def subSp? (previous : Option Instruction) (i : Instruction) : Option Prologue :=
  if i.operation == "SUB" && i.hasReg 0 "sp" && i.hasReg 1 "sp" && atBoundary previous then
    some (.anchored i.address .subSp i.text)
  else none

/-- The matches that an instruction completes. -/
def prologuesAt (previous : Option Instruction) (i : Instruction) : List Prologue :=
  [frame? previous i, strLr? previous i, subSp? previous i].filterMap id

end Arm64

/-- The matches of an architecture's patterns in a succession of readings. -/
def Prologue.scan (arch : Arch) (preserved : List String) (rs : List Reading) : List Prologue :=
  match arch with
  | .amd64 => Reading.collect (Amd64.prologuesAt preserved) rs
  | .arm64 => Reading.collect Arm64.prologuesAt rs

end EntryScan
