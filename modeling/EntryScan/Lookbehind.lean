import EntryScan.Instruction

/-!
# EntryScan.Lookbehind

A pass over readings that shows each instruction together with the one before it. A failed
reading breaks the succession; a marker does not.
-/

namespace EntryScan

/-- Collects what `visit` makes of each instruction and its predecessor, given the predecessor of
the first. -/
def Reading.collectFrom {α : Type} (visit : Option Instruction → Instruction → List α) :
    Option Instruction → List Reading → List α
  | _, [] => []
  | previous, .marker :: rs => collectFrom visit previous rs
  | _, .failed :: rs => collectFrom visit none rs
  | previous, .insn i :: rs => visit previous i ++ collectFrom visit (some i) rs

def Reading.collect {α : Type} (visit : Option Instruction → Instruction → List α)
    (rs : List Reading) : List α :=
  collectFrom visit none rs

/-- What is found once every instruction was shown to `visit`, together with its predecessor and
what was found before it; given the predecessor of the first. -/
def Reading.gatherFrom {α : Type} (visit : Option Instruction → Instruction → List α → List α) :
    Option Instruction → List α → List Reading → List α
  | _, found, [] => found
  | previous, found, .marker :: rs => gatherFrom visit previous found rs
  | _, found, .failed :: rs => gatherFrom visit none found rs
  | previous, found, .insn i :: rs => gatherFrom visit (some i) (visit previous i found) rs

def Reading.instructions (rs : List Reading) : List Instruction :=
  rs.filterMap fun
    | .insn i => some i
    | _ => none

end EntryScan
