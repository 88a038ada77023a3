import EntryScan.Address
import EntryScan.Confidence
import EntryScan.Value.Basic

/-!
# EntryScan.CallSite.Basic

Call sites: one edge for each call or jump instruction. The target is missing when it depends on
a register or on memory.
-/

namespace EntryScan

inductive EdgeKind where
  | call
  | jump
deriving DecidableEq, Repr

namespace EdgeKind

def name : EdgeKind → String
  | .call => "call"
  | .jump => "jump"

def ofName? (s : String) : Option EdgeKind :=
  [EdgeKind.call, .jump].find? (·.name == s)

end EdgeKind

/-- How an edge names its target. -/
inductive AddressingMode where
  | pcRelative
  | absolute
  | registerIndirect
deriving DecidableEq, Repr

namespace AddressingMode

def name : AddressingMode → String
  | .pcRelative => "pc-relative"
  | .absolute => "absolute"
  | .registerIndirect => "register-indirect"

def ofName? (s : String) : Option AddressingMode :=
  [AddressingMode.pcRelative, .absolute, .registerIndirect].find? (·.name == s)

end AddressingMode

/-- A call or jump instruction and its target. -/
structure CallSite where
  source : Int
  target : Option Int
  kind : EdgeKind
  mode : AddressingMode
  confidence : Confidence
  instruction : String
  conditional : Bool
deriving DecidableEq, Repr

namespace CallSite

def toValue (e : CallSite) : Value :=
  .object [
    ("source_address", .text (Address.hexify e.source)),
    ("target_address", .ofText? (e.target.map Address.hexify)),
    ("kind", .text e.kind.name),
    ("addressing_mode", .text e.mode.name),
    ("confidence", .text e.confidence.name),
    ("conditional", .bool e.conditional),
    ("instruction", .text e.instruction)]

/-- The target lies in the `size` bytes from `start` on. -/
def staysIn (start size : Int) (e : CallSite) : Bool :=
  match e.target with
  | some t => start ≤ t && t < start + size
  | none => false

end CallSite
end EntryScan
