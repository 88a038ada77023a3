import EntryScan.Arm64.Operand
import EntryScan.Bytes

/-!
# EntryScan.Arm64.Decode

One A64 instruction from the word at the front of a window.

An instruction word is a number below `2 ^ 32`. Each family of encodings is a partial function
from words to instructions; families do not overlap, and `decodeWord?` is their union. Nothing but
labels and the instruction's own address depends on where the window stands.
-/

namespace EntryScan
namespace Arm64

/-- The `width` bits of a word from bit `low` on. -/
def field (w low width : Nat) : Nat := (w >>> low) % (1 <<< width)

def bit (w n : Nat) : Bool := field w n 1 = 1

def signedField (w low width : Nat) : Int := Bytes.signExtend width (field w low width)

/-- A label `words` instruction words away. -/
def wordLabel (words : Int) : Arg := .label (4 * words)

/-- A 64-bit register where 31 is zero. -/
def xReg (n : Nat) : Arg := .reg (registerName true .zero n)

/-- A register of either width where 31 is zero. -/
def reg (wide : Bool) (n : Nat) : Arg := .reg (registerName wide .zero n)

/-- A register of either width where 31 is the stack pointer. -/
def stackReg (wide : Bool) (n : Nat) : Arg := .reg (registerName wide .stack n)

def conditions : List String :=
  ["eq", "ne", "hs", "lo", "mi", "pl", "vs", "vc", "hi", "ls", "ge", "lt", "gt", "le", "al", "nv"]

def branch? (w : Nat) : Option Body :=
  if field w 26 6 = 0b000101 then some (.plain "B" [wordLabel (signedField w 0 26)])
  else if field w 26 6 = 0b100101 then some (.plain "BL" [wordLabel (signedField w 0 26)])
  else if field w 24 8 = 0b01010100 then
    let target := wordLabel (signedField w 5 19)
    let cond := conditions.getD (field w 0 4) ""
    if bit w 4 then some ⟨"BC", "bc." ++ cond, [target]⟩ else some ⟨"B", "b." ++ cond, [target]⟩
  else if field w 25 6 = 0b011010 then
    some (.plain (if bit w 24 then "CBNZ" else "CBZ")
      [reg (bit w 31) (field w 0 5), wordLabel (signedField w 5 19)])
  else if field w 25 6 = 0b011011 then
    let number := 32 * field w 31 1 + field w 19 5
    some (.plain (if bit w 24 then "TBNZ" else "TBZ")
      [reg (bit w 31) (field w 0 5), .imm number, wordLabel (signedField w 5 14)])
  else none

/-- Branches to a register, and returns. -/
def registerBranch? (w : Nat) : Option Body :=
  let n := field w 5 5
  let m := field w 0 5
  let top := field w 10 22
  if m = 0 ∧ top = 0xd61f0000 / 1024 then some (.plain "BR" [xReg n])
  else if m = 0 ∧ top = 0xd63f0000 / 1024 then some (.plain "BLR" [xReg n])
  else if m = 0 ∧ top = 0xd65f0000 / 1024 then
    some (.plain "RET" (if n = 30 then [] else [xReg n]))
  else if m = 31 ∧ top = 0xd61f0800 / 1024 then some (.plain "BRAAZ" [xReg n])
  else if m = 31 ∧ top = 0xd61f0c00 / 1024 then some (.plain "BRABZ" [xReg n])
  else if m = 31 ∧ top = 0xd63f0800 / 1024 then some (.plain "BLRAAZ" [xReg n])
  else if m = 31 ∧ top = 0xd63f0c00 / 1024 then some (.plain "BLRABZ" [xReg n])
  else if top = 0xd71f0800 / 1024 then some (.plain "BRAA" [xReg n, stackReg true m])
  else if top = 0xd71f0c00 / 1024 then some (.plain "BRAB" [xReg n, stackReg true m])
  else if top = 0xd73f0800 / 1024 then some (.plain "BLRAA" [xReg n, stackReg true m])
  else if top = 0xd73f0c00 / 1024 then some (.plain "BLRAB" [xReg n, stackReg true m])
  else none

/-- Instructions that are one word each. -/
def fixedWords : List (Nat × Body) :=
  [(0xd65f0bff, .plain "RETAA" []), (0xd65f0fff, .plain "RETAB" []),
    (0xd69f03e0, .plain "ERET" []),
    (0xd503201f, .plain "NOP" []), (0xd503203f, .plain "YIELD" []),
    (0xd503205f, .plain "WFE" []), (0xd503207f, .plain "WFI" []),
    (0xd503209f, .plain "SEV" []), (0xd50320bf, .plain "SEVL" []),
    (0xd503233f, .plain "PACIASP" []), (0xd50323bf, .plain "AUTIASP" []),
    (0xd503237f, .plain "PACIBSP" []), (0xd50323ff, .plain "AUTIBSP" []),
    (0xd503241f, .plain "BTI" []), (0xd503245f, .plain "BTI" [.reg "c"]),
    (0xd503249f, .plain "BTI" [.reg "j"]), (0xd50324df, .plain "BTI" [.reg "jc"])]

def fixed? (w : Nat) : Option Body := fixedWords.lookup w

/-- Exceptions with a 16-bit number. -/
def exception? (w : Nat) : Option Body :=
  let number : Arg := .imm (field w 5 16)
  if field w 21 11 = 0xd4200000 >>> 21 ∧ field w 0 5 = 0 then some (.plain "BRK" [number])
  else if field w 21 11 = 0xd4000000 >>> 21 ∧ field w 0 5 = 1 then some (.plain "SVC" [number])
  else if field w 21 11 = 0xd4400000 >>> 21 ∧ field w 0 5 = 0 then some (.plain "HLT" [number])
  else if w < 0x10000 then some (.plain "UDF" [.imm w])
  else none

/-- Loads and stores of a register pair. A load needs two registers, and an instruction that
writes its base back must not have it among the pair, unless it is the stack pointer. -/
def pair? (w : Nat) : Option Body :=
  let wide := bit w 31
  let load := bit w 22
  let mode := field w 23 3
  let disp := signedField w 15 7 * (if wide then 8 else 4)
  let r1 := field w 0 5
  let r2 := field w 10 5
  let n := field w 5 5
  let base := registerName true .stack n
  let head := [reg wide r1, reg wide r2]
  let operation := if load then "LDP" else "STP"
  let clash := mode ≠ 2 ∧ n ≠ 31 ∧ (n = r1 ∨ n = r2)
  if field w 26 4 ≠ 0b1010 ∨ bit w 30 ∨ mode = 0 ∨ 3 < mode then none
  else if load ∧ r1 = r2 ∨ clash then none
  else if mode = 1 then some (.plain operation (head ++ [.mem base 0 false, .imm disp]))
  else some (.plain operation (head ++ [.mem base disp (mode = 3)]))

/-- Loads and stores of one register. A post-indexed distance shows unsigned. A load that writes
its base back must not load it too, unless it is the stack pointer. -/
def single? (w : Nat) : Option Body :=
  let wide := bit w 30
  let load := bit w 22
  let t := field w 0 5
  let n := field w 5 5
  let head := reg wide t
  let base := registerName true .stack n
  let operation := if load then "LDR" else "STR"
  let near := signedField w 12 9
  if field w 26 4 ≠ 0b1110 ∨ !bit w 31 ∨ bit w 23 then none
  else if field w 24 2 = 1 then
    let disp : Int := field w 10 12 * (if wide then 8 else 4)
    some (.plain operation [head, .mem base disp false])
  else if field w 24 2 = 0 ∧ !bit w 21 then
    let mode := field w 10 2
    if load ∧ mode ≠ 0 ∧ n ≠ 31 ∧ t = n then none
    else match mode with
    | 0 => some (.plain (if load then "LDUR" else "STUR") [head, .mem base near false])
    | 1 => some (.plain operation [head, .mem base 0 false, .imm (Address.wrap near)])
    | 3 => some (.plain operation [head, .mem base near true])
    | _ => none
  else none

/-- Addition and subtraction of an immediate. A comparison drops its result, and a move to or
from the stack pointer adds zero. -/
def immediate? (w : Nat) : Option Body :=
  let wide := bit w 31
  let sub := bit w 30
  let flags := bit w 29
  let value : Int := field w 10 12
  let n := field w 5 5
  let d := field w 0 5
  let imm : Arg := if bit w 22 then .shifted value 12 else .imm value
  if field w 23 6 ≠ 0b100010 then none
  else if flags ∧ d = 31 then
    some (.plain (if sub then "CMP" else "CMN") [stackReg wide n, imm])
  else if flags then
    some (.plain (if sub then "SUBS" else "ADDS") [reg wide d, stackReg wide n, imm])
  else if !sub ∧ value = 0 ∧ !bit w 22 ∧ (d = 31 ∨ n = 31) then
    some (.plain "MOV" [stackReg wide d, stackReg wide n])
  else some (.plain (if sub then "SUB" else "ADD") [stackReg wide d, stackReg wide n, imm])

def extensions : List String :=
  ["uxtb", "uxth", "uxtw", "uxtx", "sxtb", "sxth", "sxtw", "sxtx"]

/-- An extended register. The plain 64-bit extension is a left shift, and is not written when it
shifts by nothing. -/
def extendedReg (kind amount m : Nat) : Arg :=
  let name := registerName (kind % 4 = 3) .zero m
  let shift := immText amount
  if kind = 3 then
    if amount = 0 then .reg name else .extended name ("lsl " ++ shift)
  else
    let suffix := extensions.getD kind ""
    .extended name (if amount = 0 then suffix else suffix ++ " " ++ shift)

/-- Addition to and subtraction from the stack pointer of an extended register. -/
def extended? (w : Nat) : Option Body :=
  let amount := field w 10 3
  if field w 21 10 ≠ 0b0001011001 ∧ field w 21 10 ≠ 0b1001011001 then none
  else if !bit w 31 ∨ field w 5 5 ≠ 31 ∨ 4 < amount then none
  else
    some (.plain (if bit w 30 then "SUB" else "ADD")
      [stackReg true (field w 0 5), stackReg true 31,
        extendedReg (field w 13 3) amount (field w 16 5)])

/-- Moves, additions, subtractions and comparisons of registers. -/
def register? (w : Nat) : Option Body :=
  let m := field w 16 5
  let n := field w 5 5
  let d := field w 0 5
  let top := field w 21 11
  if field w 10 6 ≠ 0 then none
  else if top = 0xaa000000 >>> 21 ∧ n = 31 then some (.plain "MOV" [reg true d, reg true m])
  else if top = 0x2a000000 >>> 21 ∧ n = 31 then some (.plain "MOV" [reg false d, reg false m])
  else if top = 0x8b000000 >>> 21 then some (.plain "ADD" [xReg d, xReg n, xReg m])
  else if top = 0xcb000000 >>> 21 then some (.plain "SUB" [xReg d, xReg n, xReg m])
  else if top = 0xeb000000 >>> 21 ∧ d = 31 then some (.plain "CMP" [xReg n, xReg m])
  else none

/-- Moves of a 16-bit immediate to the low half word. -/
def wideMove? (w : Nat) : Option Body :=
  let args := [reg (bit w 31) (field w 0 5), .imm (field w 5 16)]
  if field w 21 10 = 0x52800000 >>> 21 then some (.plain "MOV" args)
  else if field w 21 10 = 0x72800000 >>> 21 then some (.plain "MOVK" args)
  else none

/-- Addresses relative to the instruction or to its page. -/
def relative? (w : Nat) : Option Body :=
  let distance := Bytes.signExtend 21 (4 * field w 5 19 + field w 29 2)
  let head := xReg (field w 0 5)
  if field w 24 5 ≠ 0b10000 then none
  else if bit w 31 then some (.plain "ADRP" [head, .page (4096 * distance)])
  else some (.plain "ADR" [head, .label distance])

/-- The instruction of a word, without its place. -/
def decodeWord? (w : Nat) : Option Body :=
  branch? w <|> registerBranch? w <|> fixed? w <|> exception? w <|> pair? w <|> single? w <|>
    immediate? w <|> extended? w <|> register? w <|> wideMove? w <|> relative? w

def wordSize : Nat := 4

/-- The instruction at the front of a window that stands at `address`. -/
def decode? (window : List UInt8) (address : Int) : Option Decoded :=
  if window.length < wordSize then none
  else
    (decodeWord? (Bytes.littleEndian (window.take wordSize))).map
      fun body => ⟨body.place address, wordSize⟩

end Arm64
end EntryScan
