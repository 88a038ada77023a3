import EntryScan.Address
import EntryScan.Value.Basic

/-!
# EntryScan.Prologue.Basic

Matches of prologue patterns. A match is anchored at the first instruction of its pattern.
-/

namespace EntryScan

/-- The prologue patterns, those of x86-64 first. -/
inductive PrologueKind where
  | classic
  | noFramePointer
  | pushOnly
  | leaBased
  | stpFramePair
  | stpOnly
  | strLrPreindex
  | subSp
deriving DecidableEq, Repr

namespace PrologueKind

def name : PrologueKind → String
  | .classic => "classic"
  | .noFramePointer => "no-frame-pointer"
  | .pushOnly => "push-only"
  | .leaBased => "lea-based"
  | .stpFramePair => "stp-frame-pair"
  | .stpOnly => "stp-only"
  | .strLrPreindex => "str-lr-preindex"
  | .subSp => "sub-sp"

def all : List PrologueKind :=
  [.classic, .noFramePointer, .pushOnly, .leaBased, .stpFramePair, .stpOnly, .strLrPreindex,
    .subSp]

def ofName? (s : String) : Option PrologueKind :=
  all.find? (·.name == s)

end PrologueKind

/-- A match of a prologue pattern. -/
structure Prologue where
  address : Int
  kind : PrologueKind
  instructions : String
deriving DecidableEq, Repr

def Prologue.toValue (p : Prologue) : Value :=
  .object [
    ("address", .text (Address.hexify p.address)),
    ("type", .text p.kind.name),
    ("instructions", .text p.instructions)]

end EntryScan
