import EntryScan.Arch
import EntryScan.Proofs.Decoding

/-!
# EntryScan.Decoder

Decoders of single instructions. A sweep works with any of them: it relies on the sizes and the
address alone, which are part of what a decoder is.
-/

namespace EntryScan

/-- A decoder of the instruction at the front of a window that stands at an address. -/
structure Decoder where
  decode? : Arch → List UInt8 → Int → Option Decoded
  size_bounds : ∀ {arch window address d}, decode? arch window address = some d →
    0 < d.size ∧ d.size ≤ window.length
  size_arm64 : ∀ {window address d}, decode? .arm64 window address = some d → d.size = 4
  address_eq : ∀ {arch window address d}, decode? arch window address = some d →
    d.insn.address = Address.wrap address

/-- The decoders of both architectures. -/
def Decoder.standard : Decoder where
  decode?
    | .amd64 => Amd64.decode?
    | .arm64 => Arm64.decode?
  size_bounds := by
    intro arch window address d h
    cases arch with
    | amd64 =>
      obtain ⟨hpos, hle, _⟩ := Amd64.decode?_size h
      exact ⟨hpos, hle⟩
    | arm64 =>
      obtain ⟨hsize, hle⟩ := Arm64.decode?_size h
      rw [hsize]
      exact ⟨by decide, hle⟩
  size_arm64 := fun h => (Arm64.decode?_size h).1
  address_eq := by
    intro arch window address d h
    cases arch with
    | amd64 => exact Amd64.decode?_address h
    | arm64 => exact Arm64.decode?_address h

end EntryScan
