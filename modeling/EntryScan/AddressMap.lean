/-!
# EntryScan.AddressMap

Finite maps from addresses and finite sets of addresses, as lists in ascending order.
-/

namespace EntryScan

/-- Inserts an address into an ascending list, unless it is there. -/
def insertAddress (a : Int) : List Int → List Int
  | [] => [a]
  | b :: bs => if a < b then a :: b :: bs else if a = b then b :: bs else b :: insertAddress a bs

/-- A map from addresses: entries in ascending order of their address. -/
abbrev AddressMap (α : Type) := List (Int × α)

namespace AddressMap

variable {α : Type}

def get? (m : AddressMap α) (a : Int) : Option α := m.lookup a

def keys (m : AddressMap α) : List Int := m.map (·.1)

/-- Replaces the entry at an address by what `f` makes of it, if any. -/
def alter (a : Int) (f : Option α → α) : AddressMap α → AddressMap α
  | [] => [(a, f none)]
  | (b, x) :: rest =>
    if a < b then (a, f none) :: (b, x) :: rest
    else if a = b then (b, f (some x)) :: rest
    else (b, x) :: alter a f rest

end AddressMap
end EntryScan
