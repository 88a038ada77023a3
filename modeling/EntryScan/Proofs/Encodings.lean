import EntryScan.Proofs.Walk

/-!
# EntryScan.Proofs.Encodings

The decoder of one instruction and the bytes that it may look at.

* `Sweep.Encodes`: bytes that are an encoding as a whole, whether or not they are too long. No
  encoding is a front of another one.
* `Sweep.decodeAt?_eq_some_iff`: what decodes at an offset is the encoding that the bytes there begin
  with, if it is neither too long nor cut off.
* `Sweep.decodeAt?_eq_window`: the bytes behind the window do not matter.
* `Sweep.decodeAt?_bounds`, `Sweep.decodeAt?_eq_none_of_long`: how large a result is, and that an
  encoding without room fails.
* `Sweep.decodeAt?_confined`: these together.
-/

namespace EntryScan

namespace Arm64

/-- The bytes are the word of the instruction. -/
def Encodes (bytes : List UInt8) (body : Body) : Prop :=
  bytes.length = wordSize ∧ decodeWord? (Bytes.littleEndian bytes) = some body

theorem decode?_eq_some_iff {window : List UInt8} {address : Int} {d : Decoded} :
    decode? window address = some d ↔
      d.size ≤ wordSize ∧ d.size ≤ window.length ∧
        ∃ body, Encodes (window.take d.size) body ∧ body.place address = d.insn := by
  constructor
  · intro h
    obtain ⟨hsize, hlength⟩ := decode?_size h
    rw [hsize]
    refine ⟨Nat.le_refl _, hlength, ?_⟩
    rw [decode?, if_neg (Nat.not_lt.mpr hlength)] at h
    obtain ⟨body, hbody, rfl⟩ := Option.map_eq_some_iff.mp h
    exact ⟨body, ⟨List.length_take_of_le hlength, hbody⟩, rfl⟩
  · rintro ⟨_, hlength, body, ⟨hsize, hbody⟩, hplace⟩
    rw [List.length_take_of_le hlength] at hsize
    have hd : d = ⟨body.place address, wordSize⟩ := by rw [hplace, ← hsize]
    rw [hsize] at hlength hbody
    rw [decode?, if_neg (Nat.not_lt.mpr hlength), hbody, hd, Option.map_some]

end Arm64

namespace Sweep

variable {arch : Arch} {code : List UInt8} {offset address : Int} {d : Decoded}

/-! ## Encodings -/

/-- The bytes, from the first to the last, are an encoding of the instruction if they stand at
`address`. -/
def Encodes (arch : Arch) (bytes : List UInt8) (address : Int) (i : Instruction) : Prop :=
  match arch with
  | .amd64 => ∃ body, Amd64.Encodes bytes body ∧ body.place address bytes.length = i
  | .arm64 => ∃ body, Arm64.Encodes bytes body ∧ body.place address = i

theorem Encodes.length_pos {bytes : List UInt8} {i : Instruction}
    (h : Encodes arch bytes address i) : 0 < bytes.length := by
  cases arch with
  | amd64 =>
    obtain ⟨body, henc, _⟩ := h
    exact List.length_pos_of_ne_nil henc.ne_nil
  | arm64 =>
    obtain ⟨body, ⟨hword, _⟩, _⟩ := h
    rw [hword]
    decide

theorem Encodes.address_eq {bytes : List UInt8} {i : Instruction}
    (h : Encodes arch bytes address i) : i.address = Address.wrap address := by
  cases arch with
  | amd64 =>
    obtain ⟨body, _, rfl⟩ := h
    rfl
  | arm64 =>
    obtain ⟨body, _, rfl⟩ := h
    rfl

theorem Encodes.length_arm64 {bytes : List UInt8} {i : Instruction}
    (h : Encodes .arm64 bytes address i) : bytes.length = 4 := by
  obtain ⟨body, ⟨hword, _⟩, _⟩ := h
  exact hword

/-- No encoding is a front of another one. -/
theorem Encodes.eq_of_isPrefix {bytes bytes' : List UInt8} {i i' : Instruction}
    (h : Encodes arch bytes address i) (h' : Encodes arch bytes' address i')
    (hfront : bytes <+: bytes') : bytes = bytes' := by
  cases arch with
  | amd64 =>
    obtain ⟨body, henc, _⟩ := h
    obtain ⟨body', henc', _⟩ := h'
    exact Amd64.trims_readWhole.eq_of_isPrefix henc henc' hfront
  | arm64 => exact hfront.eq_of_length (h.length_arm64.trans h'.length_arm64.symm)

/-- Of bytes that begin with an encoding, however they go on, no other front is one. -/
theorem Encodes.eq_of_front {bytes bytes' all : List UInt8} {i i' : Instruction}
    (h : Encodes arch bytes address i) (h' : Encodes arch bytes' address i')
    (hfront : bytes <+: all) (hfront' : bytes' <+: all) : bytes = bytes' := by
  rcases List.prefix_or_prefix_of_prefix hfront hfront' with hle | hle
  · exact h.eq_of_isPrefix h' hle
  · exact (h'.eq_of_isPrefix h hle).symm

/-! ## The window -/

theorem decode?_eq_some_iff {window : List UInt8} :
    Decoder.standard.decode? arch window address = some d ↔
      d.size ≤ windowSize {} arch ∧ d.size ≤ window.length ∧
        Encodes arch (window.take d.size) address d.insn := by
  cases arch with
  | amd64 =>
    simp only [Decoder.standard, Amd64.decode?, Option.map_eq_some_iff, Prod.exists,
      Amd64.decodeBody?_eq_some_iff, Encodes]
    constructor
    · rintro ⟨body, size, ⟨hmax, hlength, henc⟩, rfl⟩
      exact ⟨hmax, hlength, body, henc, by rw [List.length_take_of_le hlength]⟩
    · rintro ⟨hmax, hlength, body, henc, hplace⟩
      rw [List.length_take_of_le hlength] at hplace
      exact ⟨body, d.size, ⟨hmax, hlength, henc⟩, by rw [hplace]⟩
  | arm64 => exact Arm64.decode?_eq_some_iff

/-- What decodes at an offset is the encoding that the bytes there begin with, if it is neither too
long nor cut off. -/
theorem decodeAt?_eq_some_iff :
    decodeAt? {} arch code offset address = some d ↔
      0 ≤ offset ∧ d.size ≤ windowSize {} arch ∧ offset + d.size ≤ code.length ∧
        Encodes arch ((code.drop offset.toNat).take d.size) address d.insn := by
  by_cases hneg : offset < 0
  · rw [decodeAt?, if_pos hneg]
    constructor
    · intro h
      cases h
    · rintro ⟨hle, _⟩
      omega
  · obtain ⟨k, rfl⟩ := Int.eq_ofNat_of_zero_le (Int.not_lt.mp hneg)
    rw [decodeAt?_ofNat, decodeFront?_eq_some_iff, decode?_eq_some_iff, Int.toNat_natCast,
      List.take_take, List.length_take, List.length_drop]
    constructor
    · rintro ⟨hne, _, hmax, hlength, henc⟩
      rw [Nat.min_eq_left hmax] at henc
      have hpos := henc.length_pos
      rw [List.length_take, List.length_drop] at hpos
      exact ⟨by omega, hmax, by omega, henc⟩
    · rintro ⟨_, hmax, hend, henc⟩
      have hpos := henc.length_pos
      rw [List.length_take, List.length_drop] at hpos
      refine ⟨?_, ?_, hmax, by omega, ?_⟩
      · rw [← List.length_pos_iff, List.length_drop]
        omega
      · cases arch with
        | amd64 =>
          show 1 ≤ _
          omega
        | arm64 =>
          have hword := henc.length_arm64
          rw [List.length_take, List.length_drop] at hword
          show 4 ≤ _
          omega
      · rw [Nat.min_eq_left hmax]
        exact henc

/-- The bytes behind the window do not matter. -/
theorem decodeAt?_eq_window (h : 0 ≤ offset) :
    decodeAt? {} arch code offset address =
      decodeAt? {} arch ((code.drop offset.toNat).take (windowSize {} arch)) 0 address := by
  ext d
  rw [decodeAt?_eq_some_iff, decodeAt?_eq_some_iff]
  obtain ⟨k, rfl⟩ := Int.eq_ofNat_of_zero_le h
  simp only [Int.toNat_natCast, Int.toNat_zero, List.drop_zero, List.length_take, List.length_drop]
  refine and_congr (by omega) (and_congr_right fun hmax => ?_)
  rw [List.take_take, Nat.min_eq_left hmax]
  refine and_congr_left fun henc => ?_
  have hpos := henc.length_pos
  rw [List.length_take, List.length_drop] at hpos
  omega

/-- A result has all of these bounds, so decoding fails where one of them cannot be kept. -/
theorem decodeAt?_bounds (h : decodeAt? {} arch code offset address = some d) :
    0 ≤ offset ∧ d.insn.address = address % 2 ^ 64 ∧ 1 ≤ d.size ∧
      d.size ≤ min (windowSize {} arch : Int) (code.length - offset) ∧
      (arch = .arm64 → d.size = 4) := by
  obtain ⟨hoffset, hmax, hend, henc⟩ := decodeAt?_eq_some_iff.mp h
  have hlength : ((code.drop offset.toNat).take d.size).length = d.size := by
    rw [List.length_take, List.length_drop]
    omega
  have hpos := henc.length_pos
  rw [hlength] at hpos
  refine ⟨hoffset, ?_, hpos, by omega, ?_⟩
  · rw [henc.address_eq, Address.wrap_eq_emod]
  · rintro rfl
    rw [← hlength]
    exact henc.length_arm64

/-- An encoding that does not fit fails, since no front of it is one that does. -/
theorem decodeAt?_eq_none_of_long {bytes more : List UInt8} {i : Instruction}
    (hbytes : Encodes arch bytes address i) (hfront : bytes <+: code.drop offset.toNat ++ more)
    (hlong : min (windowSize {} arch : Int) (code.length - offset) < bytes.length) :
    decodeAt? {} arch code offset address = none := by
  refine Option.eq_none_iff_forall_ne_some.mpr fun d hd => ?_
  obtain ⟨_, _, _, henc⟩ := decodeAt?_eq_some_iff.mp hd
  have htaken : (code.drop offset.toNat).take d.size <+: code.drop offset.toNat ++ more :=
    (List.take_prefix _ _).trans (List.prefix_append _ _)
  have hsame := henc.eq_of_front hbytes htaken hfront
  obtain ⟨hoffset, _, _, hle, _⟩ := decodeAt?_bounds hd
  rw [← hsame, List.length_take, List.length_drop] at hlong
  omega

/-- **One instruction is decoded from its window alone.** There is none before the code, behind it
or, on A64, in less than a word. The result is that of the window by itself, and what decodes stands
at the given address modulo `2 ^ 64` and takes at least one byte, no more than a window holds and no
more than are left; on A64 it takes four. An encoding that is longer than the window, or that goes on
behind the end of the code, always fails. -/
theorem decodeAt?_confined (arch : Arch) (code : List UInt8) (offset address : Int) :
    let longest : Nat := match arch with
      | .amd64 => 15
      | .arm64 => 4
    let window := (code.drop offset.toNat).take longest
    let result := decodeAt? {} arch code offset address
    (offset < 0 ∨ code.length ≤ offset → result = none) ∧
    (arch = .arm64 → code.length < offset + 4 → result = none) ∧
    (0 ≤ offset → result = decodeAt? {} arch window 0 address) ∧
    (∀ d : Decoded, result = some d →
      d.insn.address = address % 2 ^ 64 ∧ 1 ≤ d.size ∧
        d.size ≤ min (longest : Int) (code.length - offset) ∧ (arch = .arm64 → d.size = 4)) ∧
    ∀ (bytes more : List UInt8) (i : Instruction), Encodes arch bytes address i →
      bytes <+: code.drop offset.toNat ++ more →
      min (longest : Int) (code.length - offset) < bytes.length → result = none := by
  intro longest window result
  have hlongest : longest = windowSize {} arch := by cases arch <;> rfl
  refine ⟨?_, ?_, ?_, ?_, ?_⟩
  · intro hout
    refine Option.eq_none_iff_forall_ne_some.mpr fun d hd => ?_
    obtain ⟨hoffset, _, hpos, hle, _⟩ := decodeAt?_bounds hd
    omega
  · intro harch hshort
    refine Option.eq_none_iff_forall_ne_some.mpr fun d hd => ?_
    obtain ⟨_, _, _, hle, hword⟩ := decodeAt?_bounds hd
    have hfour := hword harch
    omega
  · intro hoffset
    have hwindow : result = _ := decodeAt?_eq_window hoffset
    rw [← hlongest] at hwindow
    exact hwindow
  · intro d hd
    rw [hlongest]
    exact (decodeAt?_bounds hd).2
  · intro bytes more i hbytes hfront hlong
    rw [hlongest] at hlong
    exact decodeAt?_eq_none_of_long hbytes hfront hlong

/-- Fifteen prefixes before a `nop` make an encoding of sixteen bytes, which is too long though all of
it is there. Without the first of them it decodes; the address given is `2 ^ 64`, so it stands at
zero. A call of five bytes is cut off behind its fourth. -/
theorem decodeAt?_confined_sixteen_bytes :
    let slow : List UInt8 := List.replicate 15 0x66 ++ [0x90]
    let cut : List UInt8 := [0x55, 0xe8, 0, 0, 0]
    decodeAt? {} .amd64 slow 0 0x1000 = none ∧ decodeAt? {} .amd64 cut 1 0x1001 = none ∧
      ∃ d, decodeAt? {} .amd64 slow 1 (2 ^ 64) = some d ∧ d.insn.address = 0 ∧ d.size ≤ 15 := by
  intro slow cut
  have hslow : Encodes .amd64 slow 0x1000 ((Amd64.Body.plain "NOP" []).place 0x1000 16) :=
    ⟨_, rfl, rfl⟩
  have hcall : Encodes .amd64 [0xe8, 0, 0, 0, 0] 0x1001
      ((Amd64.Body.mk "CALL" "call" [.rel 0]).place 0x1001 5) := ⟨_, rfl, rfl⟩
  obtain ⟨_, _, _, _, hlong⟩ := decodeAt?_confined .amd64 slow 0 0x1000
  obtain ⟨_, _, _, _, hcut⟩ := decodeAt?_confined .amd64 cut 1 0x1001
  obtain ⟨_, _, _, hplaced, _⟩ := decodeAt?_confined .amd64 slow 1 (2 ^ 64)
  refine ⟨hlong _ [] _ hslow (List.prefix_append _ _) (by decide),
    hcut _ [0] _ hcall (List.prefix_refl _) (by decide), ?_⟩
  have hsome : (decodeAt? {} .amd64 slow 1 (2 ^ 64)).isSome = true := by decide +kernel
  obtain ⟨d, hd⟩ := Option.isSome_iff_exists.mp hsome
  obtain ⟨haddress, _, hle, _⟩ := hplaced d hd
  exact ⟨d, hd, haddress, Int.ofNat_le.mp (hle.trans (min_le_left _ _))⟩

end Sweep
end EntryScan
