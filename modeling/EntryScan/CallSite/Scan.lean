import EntryScan.Arch
import EntryScan.CallSite.Basic
import EntryScan.Config
import EntryScan.Lookbehind

/-!
# EntryScan.CallSite.Scan

The call sites in a succession of readings: each call, jump and conditional jump becomes one
edge. Its target is the last immediate operand; an instruction that tests a bit has the bit's
number before it.
-/

namespace EntryScan

inductive Branch where
  | call
  | jump
  | conditional
deriving DecidableEq, Repr

namespace Branch

def amd64Calls : List String := ["CALL", "LCALL"]

def amd64Jumps : List String := ["JMP", "LJMP"]

def amd64Conditionals : List String :=
  ["JA", "JAE", "JB", "JBE", "JE", "JNE", "JG", "JGE", "JL", "JLE", "JO", "JNO", "JP", "JNP",
    "JS", "JNS", "JCXZ", "JECXZ", "JRCXZ", "LOOP", "LOOPE", "LOOPNE"]

/-- The x86-64 branches whose target is not relative. -/
def amd64Far : List String := ["LCALL", "LJMP"]

def arm64Calls : List String := ["BL", "BLR", "BLRAA", "BLRAAZ", "BLRAB", "BLRABZ"]

def arm64Jumps : List String := ["B", "BR", "BRAA", "BRAAZ", "BRAB", "BRABZ"]

/-- The A64 conditional jumps with an operation of their own. -/
def arm64Conditionals : List String := ["CBZ", "CBNZ", "TBZ", "TBNZ"]

/-- What an instruction does, if it is a branch. On A64 a branch on a condition shares its
operation with the plain branch and shows the condition in its mnemonic. -/
def of? (arch : Arch) (i : Instruction) : Option Branch :=
  match arch with
  | .amd64 =>
    if amd64Calls.contains i.operation then some .call
    else if amd64Conditionals.contains i.operation then some .conditional
    else if amd64Jumps.contains i.operation then some .jump
    else none
  | .arm64 =>
    if arm64Calls.contains i.operation then some .call
    else if i.operation == "B" && i.mnemonic.toList.take 2 == ['b', '.'] then some .conditional
    else if arm64Conditionals.contains i.operation then some .conditional
    else if arm64Jumps.contains i.operation then some .jump
    else none

def kind : Branch → EdgeKind
  | .call => .call
  | .jump => .jump
  | .conditional => .jump

/-- The setting that gives the confidence of a resolved branch. -/
def setting (c : Config) : Branch → String
  | .call => c.callConfidence
  | .jump => c.jumpConfidence
  | .conditional => c.conditionalConfidence

end Branch

namespace Instruction

/-- The target of a branch: its last immediate, wrapped. -/
def target? (i : Instruction) : Option Int :=
  ((i.operands.filterMap Operand.imm?).getLast?).map Address.wrap

end Instruction

namespace CallSite

/-- How a resolved branch names its target. -/
def modeOf (arch : Arch) (i : Instruction) : AddressingMode :=
  if arch = .amd64 && Branch.amd64Far.contains i.operation then .absolute else .pcRelative

/-- The edge of a branch. A setting that names no confidence is an error, once a branch needs
it. -/
def ofBranch (c : Config) (arch : Arch) (i : Instruction) (b : Branch) :
    Except String CallSite :=
  let edge (target : Option Int) (mode : AddressingMode) (confidence : Confidence) : CallSite :=
    ⟨i.address, target, b.kind, mode, confidence, i.text, b = .conditional⟩
  match i.target? with
  | none => .ok (edge none .registerIndirect .absent)
  | some t => (Confidence.parse (b.setting c)).map (edge (some t) (modeOf arch i))

def branches (arch : Arch) (rs : List Reading) : List (Instruction × Branch) :=
  (Reading.instructions rs).filterMap fun i => (Branch.of? arch i).map (i, ·)

def scan (c : Config) (arch : Arch) (rs : List Reading) : Except String (List CallSite) :=
  (branches arch rs).mapM fun (i, b) => ofBranch c arch i b

end CallSite
end EntryScan
