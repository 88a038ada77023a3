import EntryScan.Amd64.Encoding

/-!
# EntryScan.Amd64.Decode

One x86-64 instruction from the front of a window of bytes.

`decode?` reads prefixes, opcode, operands and immediates in that order and fails when the window
is too short or the opcode is not known. Nothing but branch targets and the instruction's own
address depends on where the window stands.
-/

namespace EntryScan
namespace Amd64

def conditions : List String :=
  ["O", "NO", "B", "AE", "E", "NE", "BE", "A", "S", "NS", "P", "NP", "L", "GE", "LE", "G"]

/-- The condition of an opcode's low four bits. -/
def condition (op : Nat) : String := conditions.getD (op % 16) ""

def arithmetic : List String := ["ADD", "OR", "ADC", "SBB", "AND", "SUB", "XOR", "CMP"]

def shifts : List String := ["ROL", "ROR", "RCL", "RCR", "SHL", "SHR", "SAL", "SAR"]

/-- Operations on bit patterns show their immediates unsigned. -/
def isBitwise (operation : String) : Bool :=
  ["AND", "OR", "XOR", "MOV"].contains operation

/-- Reads an immediate of the operand width, as the operation shows it. -/
def readImmFor (operation : String) (width : Width) : Reader Arg := do
  let v ← readImm width
  return .imm (if isBitwise operation then width.unsign v else v)

/-- Reads a signed byte widened to the operand width, as the operation shows it. -/
def readByteImmFor (operation : String) (width : Width) : Reader Arg := do
  let v ← Reader.signed 1
  return .imm (if isBitwise operation then width.unsign v else v)

/-- An instruction on a place and a register, in this order. -/
def placeReg (p : Prefixes) (operation : String) (width : Width) : Reader Body := do
  let (reg, place) ← readModRm p
  return .plain operation [place.arg p width, p.register width (reg + p.rexBit 2)]

/-- An instruction on a register and a place of possibly another width, in this order. -/
def regPlace (p : Prefixes) (operation : String) (width placeWidth : Width) : Reader Body := do
  let (reg, place) ← readModRm p
  return .plain operation [p.register width (reg + p.rexBit 2), place.arg p placeWidth]

/-- Jumps without a condition, and calls. -/
def isTransfer (operation : String) : Bool :=
  ["CALL", "JMP"].contains operation

/-- Conditional jumps; loops are not among them. -/
def isConditional (operation : String) : Bool :=
  (["ECXZ", "RCXZ"] ++ conditions).any fun c => operation = "J" ++ c

def isReturn (operation : String) : Bool :=
  ["RET", "RETF", "RETFQ"].contains operation

/-- The mnemonic of an operation after prefixes. Which prefixes show in it depends on the operation
alone: `f2` in calls, jumps and returns, `f3` in near returns, and `3e` in calls and in jumps without
a condition. -/
def mnemonic (p : Prefixes) (operation : String) : String :=
  let bound := isTransfer operation || isConditional operation || isReturn operation
  (if p.repeatNot && bound then "bnd "
    else if p.repeated && operation = "RET" then "repz " else "") ++
  (if p.segment = some "ds" && isTransfer operation then "notrack " else "") ++
  Text.lowerAscii operation

/-- A branch to a distance of `size` bytes from its end. -/
def relative (p : Prefixes) (operation : String) (size : Nat) : Reader Body := do
  let distance ← Reader.signed size
  return ⟨operation, mnemonic p operation, [.rel distance]⟩

/-- The six forms of an arithmetic operation. -/
def arithmeticForm (p : Prefixes) (operation : String) (form : Nat) : Reader Body :=
  match form with
  | 0 => placeReg p operation .byte
  | 1 => placeReg p operation p.width
  | 2 => regPlace p operation .byte .byte
  | 3 => regPlace p operation p.width p.width
  | 4 => do
    let imm ← readImmFor operation .byte
    return .plain operation [p.register .byte 0, imm]
  | _ => do
    let imm ← readImmFor operation p.width
    return .plain operation [p.register p.width 0, imm]

/-- An arithmetic operation on a place and an immediate; the register field names it. -/
def arithmeticImm (p : Prefixes) (width : Width) (byteImm : Bool) : Reader Body := do
  let (reg, place) ← readModRm p
  let operation := arithmetic.getD reg ""
  let imm ← if byteImm then readByteImmFor operation width else readImmFor operation width
  return .plain operation [place.arg p width, imm]

def multiplyImm (p : Prefixes) (byteImm : Bool) : Reader Body := do
  let (reg, place) ← readModRm p
  let imm ← if byteImm then readByteImmFor "IMUL" p.width else readImmFor "IMUL" p.width
  return .plain "IMUL" [p.register p.width (reg + p.rexBit 2), place.arg p p.width, imm]

def shift (p : Prefixes) (width : Width) (amount : Reader Arg) : Reader Body := do
  let (reg, place) ← readModRm p
  let count ← amount
  return .plain (shifts.getD reg "") [place.arg p width, count]

def moveImm (p : Prefixes) (width : Width) : Reader Body := do
  let (reg, place) ← readModRm p
  if reg = 0 then
    let imm ← readImmFor "MOV" width
    return .plain "MOV" [place.arg p width, imm]
  else Reader.fail

/-- The group of one-operand arithmetic, with a test at its head. -/
def unaryGroup (p : Prefixes) (width : Width) : Reader Body := do
  let (reg, place) ← readModRm p
  if reg = 0 then
    let imm ← readImmFor "TEST" width
    return .plain "TEST" [place.arg p width, imm]
  else if reg = 1 then Reader.fail
  else
    let names := ["", "", "NOT", "NEG", "MUL", "IMUL", "DIV", "IDIV"]
    return .plain (names.getD reg "") [place.arg p width]

/-- A far branch through memory: with a `66` or a REX.W an operation of its own, otherwise spelt
like the near one with a bare `ptr`. -/
def farBranch (p : Prefixes) (near far : String) : Place → Reader Body
  | .reg _ => Reader.fail
  | .mem ref =>
    if p.narrow || p.wide then return ⟨far, mnemonic p far, [.mem "" ref]⟩
    else return ⟨near, mnemonic p near, [.mem "ptr " ref]⟩

/-- The group of increments, indirect branches and the push of a place. -/
def branchGroup (p : Prefixes) : Reader Body := do
  let (reg, place) ← readModRm p
  match reg with
  | 0 => return .plain "INC" [place.arg p p.width]
  | 1 => return .plain "DEC" [place.arg p p.width]
  | 2 => return ⟨"CALL", mnemonic p "CALL", [place.arg p .qword]⟩
  | 3 => farBranch p "CALL" "LCALL" place
  | 4 => return ⟨"JMP", mnemonic p "JMP", [place.arg p .qword]⟩
  | 5 => farBranch p "JMP" "LJMP" place
  | 6 => return .plain "PUSH" [place.arg p p.stackWidth]
  | _ => Reader.fail

/-- An address computation; it needs a memory place. -/
def loadAddress (p : Prefixes) : Reader Body := do
  let (reg, place) ← readModRm p
  match place with
  | .reg _ => Reader.fail
  | .mem ref => return .plain "LEA" [p.register p.width (reg + p.rexBit 2), .mem "" ref]

/-- An instruction on one place, where the register field must be zero. -/
def onePlace (p : Prefixes) (operation : String) (width : Width) : Reader Body := do
  let (reg, place) ← readModRm p
  if reg = 0 then return .plain operation [place.arg p width] else Reader.fail

def byteStep (p : Prefixes) : Reader Body := do
  let (reg, place) ← readModRm p
  if reg = 0 then return .plain "INC" [place.arg p .byte]
  else if reg = 1 then return .plain "DEC" [place.arg p .byte]
  else Reader.fail

def Prefixes.farReturn (p : Prefixes) : String := if p.wide then "RETFQ" else "RETF"

/-- A return, with what it takes off the stack. -/
def returning (p : Prefixes) (operation : String) (args : List Arg) : Body :=
  ⟨operation, mnemonic p operation, args⟩

def byWidth (p : Prefixes) (word dword qword : String) : Body :=
  .plain (match p.width with | .qword => qword | .dword => dword | _ => word) []

/-- A push of an immediate, which is as wide as the stack operand but for 64 bits: then it has 32. -/
def pushImm (p : Prefixes) : Reader Body := do
  let value ← Reader.signed (if p.stackWidth = .word then 2 else 4)
  return .plain "PUSH" [.imm value]

def oneByte (p : Prefixes) (op : Nat) : Reader Body :=
  if op < 0x40 then
    if op % 8 < 6 then arithmeticForm p (arithmetic.getD (op / 8) "") (op % 8) else Reader.fail
  else if 0x50 ≤ op ∧ op ≤ 0x57 then
    return .plain "PUSH" [p.register p.stackWidth (op - 0x50 + p.rexBit 0)]
  else if 0x58 ≤ op ∧ op ≤ 0x5f then
    return .plain "POP" [p.register p.stackWidth (op - 0x58 + p.rexBit 0)]
  else if 0x70 ≤ op ∧ op ≤ 0x7f then relative p ("J" ++ condition op) 1
  else if 0xb0 ≤ op ∧ op ≤ 0xb7 then do
    let imm ← readImmFor "MOV" .byte
    return .plain "MOV" [p.register .byte (op - 0xb0 + p.rexBit 0), imm]
  else if 0xb8 ≤ op ∧ op ≤ 0xbf then
    if p.wide then do
      let imm ← Reader.unsigned 8
      return .plain "MOVABS" [p.register .qword (op - 0xb8 + p.rexBit 0), .imm imm]
    else do
      let imm ← readImmFor "MOV" p.width
      return .plain "MOV" [p.register p.width (op - 0xb8 + p.rexBit 0), imm]
  else match op with
  | 0x63 => regPlace p "MOVSXD" p.width .dword
  | 0x68 => pushImm p
  | 0x69 => multiplyImm p false
  | 0x6a => do return .plain "PUSH" [.imm (← Reader.signed 1)]
  | 0x6b => multiplyImm p true
  | 0x80 => arithmeticImm p .byte false
  | 0x81 => arithmeticImm p p.width false
  | 0x83 => arithmeticImm p p.width true
  | 0x84 => placeReg p "TEST" .byte
  | 0x85 => placeReg p "TEST" p.width
  | 0x86 => placeReg p "XCHG" .byte
  | 0x87 => placeReg p "XCHG" p.width
  | 0x88 => placeReg p "MOV" .byte
  | 0x89 => placeReg p "MOV" p.width
  | 0x8a => regPlace p "MOV" .byte .byte
  | 0x8b => regPlace p "MOV" p.width p.width
  | 0x8d => loadAddress p
  | 0x8f => onePlace p "POP" p.stackWidth
  | 0x90 => return .plain (if p.repeated then "PAUSE" else "NOP") []
  | 0x98 => return byWidth p "CBW" "CWDE" "CDQE"
  | 0x99 => return byWidth p "CWD" "CDQ" "CQO"
  | 0xa8 => do return .plain "TEST" [p.register .byte 0, ← readImmFor "TEST" .byte]
  | 0xa9 => do return .plain "TEST" [p.register p.width 0, ← readImmFor "TEST" p.width]
  | 0xc0 => shift p .byte (readImmFor "" .byte)
  | 0xc1 => shift p p.width (readImmFor "" .byte)
  | 0xc2 => do return returning p "RET" [.imm (← Reader.unsigned 2)]
  | 0xc3 => return returning p "RET" []
  | 0xc6 => moveImm p .byte
  | 0xc7 => moveImm p p.width
  | 0xc9 => return .plain "LEAVE" []
  | 0xca => do return returning p p.farReturn [.imm (← Reader.unsigned 2)]
  | 0xcb => return returning p p.farReturn []
  | 0xcc => return .plain "INT3" []
  | 0xcd => do return .plain "INT" [← readImmFor "" .byte]
  | 0xd0 => shift p .byte (pure (.imm 1))
  | 0xd1 => shift p p.width (pure (.imm 1))
  | 0xd2 => shift p .byte (pure (.reg "cl"))
  | 0xd3 => shift p p.width (pure (.reg "cl"))
  | 0xe0 => relative p "LOOPNE" 1
  | 0xe1 => relative p "LOOPE" 1
  | 0xe2 => relative p "LOOP" 1
  | 0xe3 => relative p (if p.shortAddress then "JECXZ" else "JRCXZ") 1
  | 0xe8 => relative p "CALL" 4
  | 0xe9 => relative p "JMP" 4
  | 0xeb => relative p "JMP" 1
  | 0xf4 => return .plain "HLT" []
  | 0xf6 => unaryGroup p .byte
  | 0xf7 => unaryGroup p p.width
  | 0xfe => byteStep p
  | 0xff => branchGroup p
  | _ => Reader.fail

/-- The control-flow markers `endbr64` and `endbr32`. -/
def entryMarker (p : Prefixes) : Reader Body := do
  let b ← Reader.byte
  if p.repeated ∧ b = 0xfa then return .plain "ENDBR64" []
  else if p.repeated ∧ b = 0xfb then return .plain "ENDBR32" []
  else Reader.fail

/-- The opcodes of two bytes, by their second byte. -/
def twoByte (p : Prefixes) (op : Nat) : Reader Body :=
  if 0x40 ≤ op ∧ op ≤ 0x4f then regPlace p ("CMOV" ++ condition op) p.width p.width
  else if 0x80 ≤ op ∧ op ≤ 0x8f then relative p ("J" ++ condition op) 4
  else if 0x90 ≤ op ∧ op ≤ 0x9f then do
    let (_, place) ← readModRm p
    return .plain ("SET" ++ condition op) [place.arg p .byte]
  else match op with
  | 0x05 => return .plain "SYSCALL" []
  | 0x0b => return .plain "UD2" []
  | 0x1e => entryMarker p
  | 0x1f => onePlace p "NOP" p.width
  | 0xa0 => return .plain "PUSH" [.reg "fs"]
  | 0xa2 => return .plain "CPUID" []
  | 0xa8 => return .plain "PUSH" [.reg "gs"]
  | 0xaf => regPlace p "IMUL" p.width p.width
  | 0xb6 => regPlace p "MOVZX" p.width .byte
  | 0xb7 => regPlace p "MOVZX" p.width .word
  | 0xbe => regPlace p "MOVSX" p.width .byte
  | 0xbf => regPlace p "MOVSX" p.width .word
  | _ => Reader.fail

/-- The opcode and all that follows it. -/
def readBody (p : Prefixes) : Reader Body := do
  let op ← Reader.byte
  if op = 0x0f then
    let second ← Reader.byte
    twoByte p second
  else oneByte p op

def maxLength : Nat := 15

/-- The instruction at the front of a window, without its place, and its size. -/
def decodeBody? (window : List UInt8) : Option (Body × Nat) :=
  let bytes := window.take maxLength
  let (p, rest) := Prefixes.scan {} bytes
  match (readBody p).run rest with
  | some (body, left) => some (body, bytes.length - left.length)
  | none => none

/-- The instruction at the front of a window that stands at `address`. -/
def decode? (window : List UInt8) (address : Int) : Option Decoded :=
  (decodeBody? window).map fun (body, size) => ⟨body.place address size, size⟩

end Amd64
end EntryScan
