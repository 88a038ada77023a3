import EntryScan.Number.Fault
import EntryScan.Number.Hex

/-!
# EntryScan.Address

Addresses are integers; where the machine would wrap, they are reduced modulo `2 ^ 64`.

* `wrap`     — the address modulo `2 ^ 64`.
* `hexify`   — the text of an address in a report, always of the wrapped address.
* `parse`    — the address a user's text denotes; only `0` to `2 ^ 64 - 1` are addresses.
-/

namespace EntryScan
namespace Address

def space : Int := 0x10000000000000000

/-- The address modulo `2 ^ 64`. -/
def wrap (n : Int) : Int := n % space

/-- The wrapped address read as a signed 64-bit number. -/
def signed (n : Int) : Int :=
  if wrap n < 0x8000000000000000 then wrap n else wrap n - space

/-- The text of an address in a report. -/
def hexify (n : Int) : String :=
  Number.hexNat (wrap n).toNat

def parse (text : String) : Except Number.Fault Int :=
  match Number.parseLiteral text.toList with
  | .error cause => .error (.literal text cause)
  | .ok n => if n < 0 ∨ space ≤ n then .error (.outOfRange text) else .ok n

end Address
end EntryScan
