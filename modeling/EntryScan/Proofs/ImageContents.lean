import EntryScan.Elf.Image
import EntryScan.Proofs.Assembly

/-!
# EntryScan.Proofs.ImageContents

What an image holds at a position, and what reading it there gives.

* `Elf.Image.Holds img pos bs`: the bytes `bs` stand in the image from `pos` on.
* `Holds.read`, `Holds.fields`, `Holds.textAt`: what stands there is read back, as bytes, as numbers
  in consecutive fields, and as a text with a zero byte behind it.
* `fields_short`: fields that reach past the end of the image are not read.
-/

namespace EntryScan

/-- Numbers in consecutive fields, each given with the width of its field. -/
def Bytes.pack (fields : List (Nat × Nat)) : List UInt8 :=
  fields.flatMap fun f => toLittleEndian f.1 f.2

namespace Elf
namespace Image

/-- Bytes stand in the image from a position on. -/
def Holds (img : Image) (pos : Nat) (bs : List UInt8) : Prop := bs <+: img.bytes.drop pos

variable {img : Image} {pos : Nat} {as bs : List UInt8}

theorem Holds.left (h : img.Holds pos (as ++ bs)) : img.Holds pos as :=
  (List.prefix_append as bs).trans h

theorem Holds.right (h : img.Holds pos (as ++ bs)) : img.Holds (pos + as.length) bs := by
  obtain ⟨t, ht⟩ := h
  refine ⟨t, ?_⟩
  rw [← List.drop_drop, ← ht, List.append_assoc, List.drop_left]

theorem Holds.length_le (h : img.Holds pos bs) : bs.length ≤ img.bytes.length - pos := by
  have hle := List.IsPrefix.length_le h
  rwa [List.length_drop] at hle

/-- What lies in the part that is left of an image stands there. -/
theorem Holds.of_isPrefix {whole : Image} (hcut : img.bytes <+: whole.bytes)
    (h : whole.Holds pos bs) (hroom : pos + bs.length ≤ img.bytes.length) :
    img.Holds pos bs := by
  obtain ⟨rest, hrest⟩ := hcut
  rw [Holds, ← hrest, List.drop_append_of_le_length (by omega)] at h
  refine List.prefix_of_prefix_length_le h (List.prefix_append _ _) ?_
  rw [List.length_drop]
  omega

/-! ## Positions and sizes -/

theorem checkOffset_of_le (hpos : pos ≤ img.bytes.length) (hlimit : img.bytes.length < 2 ^ 63) :
    img.checkOffset pos = .ok () := by
  have hoffset : ¬ offsetLimit ≤ pos := by
    norm_num [offsetLimit] at hlimit ⊢
    omega
  have hend : ¬ (lastOnDisk < pos ∧ img.bytes.length < pos) := by omega
  rw [checkOffset, if_neg hoffset, if_neg hend, if_neg hoffset, ite_self]

theorem checkSize_of_le {size : Nat} (hsize : size ≤ img.bytes.length)
    (hlimit : size + 33 < 2 ^ 63) : img.checkSize size = .ok () := by
  have hfits : size + 33 < sizeLimit := by
    norm_num [sizeLimit] at hlimit ⊢
    omega
  rw [checkSize, if_neg (by omega), if_neg (by omega), if_neg (by omega)]

theorem checkSize_of_memory {size : Nat} (hmemory : img.onDisk = false) (hsize : size < 2 ^ 63) :
    img.checkSize size = .ok () := by
  have hfits : size < sizeLimit := by
    norm_num [sizeLimit] at hsize ⊢
    omega
  simp [checkSize, hmemory, hfits]

/-! ## Reading what stands there -/

section
variable (hwhole : img.broken = none)
include hwhole

theorem read?_eq (pos size : Nat) : img.read? pos size = some ((img.bytes.drop pos).take size) := by
  simp [read?, isBroken, hwhole]

theorem read_eq (pos size : Nat) : img.read pos size = .ok ((img.bytes.drop pos).take size) := by
  rw [read, read?_eq hwhole]

theorem Holds.read (h : img.Holds pos bs) : img.read pos bs.length = .ok bs := by
  rw [read_eq hwhole, ← List.prefix_iff_eq_take.mp h]

theorem Holds.field {width n : Nat} (hn : n < 256 ^ width)
    (h : img.Holds pos (Bytes.toLittleEndian width n)) : img.field false pos width = .ok n := by
  have hlength := Bytes.length_toLittleEndian width n
  have htake : (img.bytes.drop pos).take width = Bytes.toLittleEndian width n := by
    rw [List.prefix_iff_eq_take.mp h, hlength]
  simp only [Image.field, read?_eq hwhole, htake, hlength, Nat.lt_irrefl, if_false,
    Bool.false_eq_true, Bytes.littleEndian_toLittleEndian width n hn]

theorem Holds.fields {fs : List (Nat × Nat)} (hfs : ∀ f ∈ fs, f.2 < 256 ^ f.1)
    (h : img.Holds pos (Bytes.pack fs)) :
    img.fields false pos (fs.map (·.1)) = .ok (fs.map (·.2)) := by
  induction fs generalizing pos with
  | nil => rfl
  | cons f fs ih =>
    have hfirst := h.left.field hwhole (hfs f List.mem_cons_self)
    have hrest := h.right
    rw [Bytes.length_toLittleEndian] at hrest
    have hrest := ih (fun g hg => hfs g (List.mem_cons_of_mem _ hg)) hrest
    simp only [List.map_cons, Image.fields, hfirst, hrest]
    rfl

/-- A field that reaches past the end of the image is cut off, and so are the fields as a whole. -/
theorem fields_short (big : Bool) (widths : List Nat) :
    ∀ pos ≤ img.bytes.length, img.bytes.length < pos + widths.sum →
      ∃ expected found, img.fields big pos widths = .error (.shortField expected found) := by
  induction widths with
  | nil =>
    intro pos hpos hend
    rw [List.sum_nil] at hend
    omega
  | cons width widths ih =>
    intro pos hpos hend
    rw [List.sum_cons] at hend
    have hlength : ((img.bytes.drop pos).take width).length =
        min width (img.bytes.length - pos) := by
      rw [List.length_take, List.length_drop]
    by_cases hroom : pos + width ≤ img.bytes.length
    · obtain ⟨expected, found, hrest⟩ := ih (pos + width) hroom (by omega)
      refine ⟨expected, found, ?_⟩
      simp only [Image.fields, Image.field, read?_eq hwhole]
      rw [if_neg (by omega), hrest]
      rfl
    · refine ⟨width, img.bytes.length - pos, ?_⟩
      simp only [Image.fields, Image.field, read?_eq hwhole]
      rw [if_pos (by omega), hlength, Nat.min_eq_right (by omega)]
      rfl

/-! ## Texts -/

/-- A text is found by looking through pieces of 64 bytes, as long as there are enough of them. -/
theorem textWithin_eq (pieces : Nat) :
    ∀ (pos : Nat) (bs : List UInt8), 0 ∉ bs → img.Holds pos (bs ++ [0]) →
      bs.length < 64 * pieces → img.textWithin pos pieces = .ok (some bs) := by
  induction pieces with
  | zero =>
    intro pos bs _ _ hlength
    omega
  | succ pieces ih =>
    intro pos bs hbs h hlength
    obtain ⟨rest, hrest⟩ := id h
    rw [textWithin, read_eq hwhole, ← hrest, List.append_assoc]
    by_cases hshort : bs.length < 64
    · obtain ⟨more, hmore⟩ : ∃ more, (bs ++ ([0] ++ rest)).take 64 = bs ++ 0 :: more := by
        refine ⟨rest.take (63 - bs.length), ?_⟩
        rw [List.take_append, List.take_of_length_le (by omega),
          show 64 - bs.length = (63 - bs.length) + 1 by omega]
        rfl
      have hnonzero : ∀ b ∈ bs, decide (b ≠ 0) = true := by
        intro b hb
        exact decide_eq_true fun hzero => hbs (hzero ▸ hb)
      simp only [hmore, bind, Except.bind]
      rw [if_pos (by simp), List.takeWhile_append_of_pos hnonzero,
        List.takeWhile_cons_of_neg (by simp), List.append_nil]
      rfl
    · have htake : (bs ++ ([0] ++ rest)).take 64 = bs.take 64 := by
        rw [List.take_append_of_le_length (by omega)]
      have hpiece : ¬ (bs.take 64).contains 0 = true := by
        intro hzero
        exact hbs (List.mem_of_mem_take (List.contains_iff_mem.mp hzero))
      have hsplit : bs.take 64 ++ (bs.drop 64 ++ [0]) = bs ++ [0] := by
        rw [← List.append_assoc, List.take_append_drop]
      have hnext : img.Holds (pos + 64) (bs.drop 64 ++ [0]) := by
        rw [← hsplit] at h
        have hright := h.right
        rwa [List.length_take, Nat.min_eq_left (by omega)] at hright
      have htail := ih (pos + 64) (bs.drop 64) (fun hzero => hbs (List.mem_of_mem_drop hzero))
        hnext (by rw [List.length_drop]; omega)
      simp only [htake, bind, Except.bind]
      rw [if_neg hpiece, if_neg (by rw [List.length_take]; omega), htail]
      simp only [Option.map_some, List.take_append_drop]
      rfl

theorem Holds.textAt (hlimit : img.bytes.length < 2 ^ 63) (hbs : 0 ∉ bs)
    (h : img.Holds pos (bs ++ [0])) : img.textAt pos = .ok bs := by
  have hlength := h.length_le
  rw [List.length_append, List.length_singleton] at hlength
  have hfound := textWithin_eq hwhole (img.bytes.length / 64 + 1) pos bs hbs h (by omega)
  rw [Image.textAt, checkOffset_of_le (by omega) hlimit, hfound]
  rfl

end
end Image
end Elf
end EntryScan
