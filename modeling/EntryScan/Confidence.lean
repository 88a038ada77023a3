import EntryScan.Text.Upper

/-!
# EntryScan.Confidence

How strongly the evidence speaks for a function entry or a branch target. The four levels are
ordered; the numbers carry no further meaning.
-/

namespace EntryScan

/-- Strength of evidence. -/
inductive Confidence where
  | absent
  | low
  | medium
  | high
deriving DecidableEq, Repr

namespace Confidence

def name : Confidence → String
  | .absent => "none"
  | .low => "low"
  | .medium => "medium"
  | .high => "high"

def rank : Confidence → Nat
  | .absent => 0
  | .low => 1
  | .medium => 2
  | .high => 3

/-- Every level by its name in capitals. -/
def byCapitals : List (String × Confidence) :=
  [("NONE", .absent), ("LOW", .low), ("MEDIUM", .medium), ("HIGH", .high)]

/-- The level that a text names, without regard to case. An unknown name is given back in
capitals. -/
def parse (text : String) : Except String Confidence :=
  match byCapitals.lookup (Text.upper text) with
  | some c => .ok c
  | none => .error (Text.upper text)

end Confidence
end EntryScan
