import EntryScan.Fault
import EntryScan.Proofs.Blueprint

/-!
# EntryScan.Proofs.Loading

What loading a section of an image made to order comes to, for the whole image and for every part
that is left when its end is cut off.

* `Elf.Fails`: loading ends in a fault of a family.
* `Elf.load_image`: the faults in the order in which they are reported, and the code section if
  there is none.
* `Elf.load_cut`: an image that is cut off anywhere is malformed.
-/

namespace EntryScan
namespace Elf

/-- Loading ends in a fault of a family. -/
def Fails (loaded : Except Fault CodeSection) (family : FaultFamily) : Prop :=
  ∃ f, loaded = .error f ∧ (EntryScan.Fault.container f).family? = some family

theorem fails_ok_iff {s : CodeSection} {family : FaultFamily} : Fails (.ok s) family ↔ False := by
  constructor
  · rintro ⟨f, hf, _⟩
    cases hf
  · exact False.elim

/-! ## The steps of a load -/

section
variable {c : Config} {img : Image} {requested : Option String} {h : Header}

theorem load_of_header_error {cause : Problem} (hread : Header.read img = .error cause) :
    load c img requested = .error (.during .header cause) := by
  rw [load, hread]
  rfl

theorem load_of_machine (hread : Header.read img = .ok h) (hmachine : archOf? h.machine = none) :
    load c img requested = .error (.unsupportedMachine h.machineName) := by
  simp only [load, hread, Except.mapError, bind, Except.bind, hmachine]

variable {arch : Arch}

theorem load_of_sections_error {cause : Problem} (hread : Header.read img = .ok h)
    (harch : archOf? h.machine = some arch) (hall : Section.readAll img h = .error cause) :
    load c img requested = .error (.during .sections cause) := by
  simp only [load, hread, Except.mapError, bind, Except.bind, harch, hall]

theorem load_of_missing {ss : List Section} (hread : Header.read img = .ok h)
    (harch : archOf? h.machine = some arch) (hall : Section.readAll img h = .ok ss)
    (hnamed : Section.named? ss (requestedName c requested) = none) :
    load c img requested = .error (.noSection (requestedName c requested)) := by
  simp only [load, hread, Except.mapError, bind, Except.bind, harch, hall, hnamed]

theorem load_of_section {ss : List Section} {s : Section} (hread : Header.read img = .ok h)
    (harch : archOf? h.machine = some arch) (hall : Section.readAll img h = .ok ss)
    (hnamed : Section.named? ss (requestedName c requested) = some s) :
    load c img requested = (takeBody img h.wide (requestedName c requested) s).map
      fun data => ⟨requestedName c requested, s.header.address, data, arch⟩ := by
  simp only [load, hread, Except.mapError, bind, Except.bind, harch, hall, hnamed]
  cases takeBody img h.wide (requestedName c requested) s <;> rfl

end

theorem requestedName_some {c : Config} {r : String} (hr : r ≠ "") :
    requestedName c (some r) = r := by
  simp [requestedName, hr]

theorem archOf?_eq_none {machine : Nat} (h62 : machine ≠ 62) (h183 : machine ≠ 183) :
    archOf? machine = none := by
  simp [archOf?, List.lookup_eq_none_iff, h62, h183]

/-- The bytes of a section that is not compressed are given if there are as many as its header
says. -/
theorem takeBody_raw {img : Image} {wide : Bool} {name : String} {s : Section} {data : List UInt8}
    (hkept : s.header.isEmptyInFile = false) (hraw : s.header.isCompressed = false)
    (hbody : s.body img wide = .ok data) :
    takeBody img wide name s = if data.length = s.header.size then .ok data
      else .error (.truncated name data.length s.header.size) := by
  by_cases hsize : data.length = s.header.size <;>
    simp [takeBody, hkept, hraw, hbody, hsize, Except.mapError, bind, Except.bind, pure,
      Except.pure]

/-! ## Whole images -/

namespace Blueprint

variable {b : Blueprint} {img : Image}

theorem named?_other {r : String} (hr : r ≠ "") (hname : r ≠ b.name) (htable : r ≠ tableName) :
    Section.named? b.sections r = none := by
  simp [Section.named?, sections, hr.symm, hname.symm, htable.symm]

theorem named?_code (htable : b.name ≠ tableName) :
    Section.named? b.sections b.name = some ⟨b.name, b.codeHeader, none⟩ := by
  simp [Section.named?, sections, htable.symm]

theorem takeBody_code (hwhole : img.broken = none) (hstart : 64 ≤ img.bytes.length)
    (hoffset : img.checkOffset 64 = .ok ()) (hsize : img.checkSize b.size = .ok ()) (wide : Bool)
    (name : String) :
    takeBody img wide name ⟨b.name, b.codeHeader, none⟩ =
      if img.bytes.length < 64 + b.size then
        .error (.truncated name (img.bytes.length - 64) b.size)
      else .ok ((img.bytes.drop 64).take b.size) := by
  have hbody : Section.body img wide ⟨b.name, b.codeHeader, none⟩ =
      .ok ((img.bytes.drop 64).take b.size) := by
    simp only [Section.body, Section.plainBody, codeHeader, hoffset, hsize, bind, Except.bind,
      Image.read_eq hwhole]
  have hlength : ((img.bytes.drop 64).take b.size).length =
      min b.size (img.bytes.length - 64) := by
    rw [List.length_take, List.length_drop]
  rw [takeBody_raw rfl (not_compressed b).2.1 hbody, hlength,
    show (⟨b.name, b.codeHeader, none⟩ : Section).header.size = b.size from rfl]
  by_cases hcut : img.bytes.length < 64 + b.size
  · rw [if_pos hcut, if_neg (by omega), Nat.min_eq_right (by omega)]
  · rw [if_neg hcut, if_pos (by omega)]

theorem take_code (h : img.bytes = b.image) : (img.bytes.drop 64).take b.code.length = b.code := by
  have hcode := (holds_image h).right.left
  exact (List.prefix_iff_eq_take.mp hcode).symm

theorem room_for_code (b : Blueprint) : 64 + b.code.length ≤ b.image.length := by
  rw [length_image, sectionOffset, namesOffset]
  omega

theorem archOf?_header {arch : Arch}
    (hmachine : b.machine = 62 ∧ arch = .amd64 ∨ b.machine = 183 ∧ arch = .arm64) :
    archOf? b.header.machine = some arch := by
  rcases hmachine with ⟨h, rfl⟩ | ⟨h, rfl⟩ <;> simp only [header, h] <;> rfl

/-- The code section of a supported machine, if its offset and its size can be asked for. -/
theorem load_code {c : Config} (hfits : b.Fits) (hplain : Plain b.name)
    (htable : b.name ≠ tableName) (hempty : b.name ≠ "") {arch : Arch}
    (hmachine : b.machine = 62 ∧ arch = .amd64 ∨ b.machine = 183 ∧ arch = .arm64)
    (hwhole : img.broken = none) (hbytes : img.bytes = b.image)
    (hoffset : img.checkOffset 64 = .ok ()) (hsize : img.checkSize b.size = .ok ()) :
    load c img (some b.name) =
      if b.image.length < 64 + b.size then
        .error (.truncated b.name (b.image.length - 64) b.size)
      else .ok ⟨b.name, b.address.toNat, (b.image.drop 64).take b.size, arch⟩ := by
  have hread := read_fileHeader hfits hwhole (holds_image hbytes).left
  have hall := readAll_image hfits hwhole hbytes hplain
  have hname : requestedName c (some b.name) = b.name := requestedName_some hempty
  have hnamed := named?_code htable
  rw [← hname] at hnamed
  have hstart : 64 ≤ img.bytes.length := by
    have hroom := b.room_for_code
    rw [hbytes]
    omega
  rw [load_of_section hread (archOf?_header hmachine) hall hnamed, hname,
    takeBody_code hwhole hstart hoffset hsize, hbytes]
  split <;> rfl

end Blueprint

open Blueprint in
/-- **Loading undoes building.** The image of a blueprint is taken in memory, and a section is asked
for. A machine that is not supported is reported first; then a name that no section has. The code
section cannot be read exactly if the size that its header gives reaches past the end of the image.
Otherwise its bytes, its address and its architecture are those of the blueprint. -/
theorem load_image (c : Config) {b : Blueprint} (hfits : b.Fits) (hplain : Plain b.name)
    (htable : b.name ≠ ".shstrtab") (hsize : b.size < 2 ^ 63) {r : String} (hr : r ≠ "") :
    let loaded := load c { bytes := b.image } (some r)
    (b.machine ≠ 62 ∧ b.machine ≠ 183 → Fails loaded .unsupportedMachine) ∧
    ∀ arch, b.machine = 62 ∧ arch = .amd64 ∨ b.machine = 183 ∧ arch = .arm64 →
      (r ≠ b.name ∧ r ≠ ".shstrtab" → Fails loaded .sectionNotFound) ∧
      (r = b.name →
        (Fails loaded .sectionRead ↔ b.image.length < 64 + b.size) ∧
        (64 + b.size ≤ b.image.length →
          loaded = .ok ⟨b.name, b.address.toNat, (b.image.drop 64).take b.size, arch⟩) ∧
        (b.size = b.code.length → loaded = .ok ⟨b.name, b.address.toNat, b.code, arch⟩)) := by
  intro loaded
  let img : Image := { bytes := b.image }
  have hwhole : img.broken = none := rfl
  have hbytes : img.bytes = b.image := rfl
  have hread : Header.read img = .ok b.header :=
    read_fileHeader hfits hwhole (holds_image hbytes).left
  refine ⟨?_, ?_⟩
  · rintro ⟨h62, h183⟩
    have hmachine : archOf? b.header.machine = none :=
      archOf?_eq_none (fun h => h62 (UInt16.toNat_inj.mp h)) (fun h => h183 (UInt16.toNat_inj.mp h))
    exact ⟨_, load_of_machine hread hmachine, rfl⟩
  · intro arch hmachine
    refine ⟨?_, ?_⟩
    · rintro ⟨hother, hnames⟩
      have hname : requestedName c (some r) = r := requestedName_some hr
      have hnamed := named?_other hr hother hnames
      rw [← hname] at hnamed
      have hall := readAll_image hfits hwhole hbytes hplain
      exact ⟨_, load_of_missing hread (archOf?_header hmachine) hall hnamed, rfl⟩
    · rintro rfl
      have hroom := b.room_for_code
      have hload : loaded = _ := load_code hfits hplain htable hr hmachine hwhole hbytes
        (Image.checkOffset_of_le (show 64 ≤ b.image.length by omega) hfits.length)
        (Image.checkSize_of_memory rfl hsize)
      by_cases hcut : b.image.length < 64 + b.size
      · rw [if_pos hcut] at hload
        have hfails : Fails loaded .sectionRead := ⟨_, hload, rfl⟩
        exact ⟨iff_of_true hfails hcut, fun h => by omega, fun hcode => by omega⟩
      · rw [if_neg hcut] at hload
        have hkept : ¬ Fails loaded .sectionRead := by
          rw [hload]
          exact fails_ok_iff.mp
        refine ⟨iff_of_false hkept hcut, fun _ => hload, fun hcode => ?_⟩
        rw [hload, hcode, ← hbytes, take_code hbytes]

open Blueprint in
/-- A `ret` for the second machine at the last address: a size that reaches just to the end of the
image is read, and the next larger one is not. -/
theorem load_image_to_the_end :
    let b (d : UInt64) : Blueprint :=
      ⟨[0xc0, 0x03, 0x5f, 0xd6], 183, 0xffffffffffffffff, ".init", some d⟩
    load {} { bytes := (b 216).image } (some ".init") =
        .ok ⟨".init", 2 ^ 64 - 1, ((b 216).image.drop 64).take 216, .arm64⟩ ∧
      Fails (load {} { bytes := (b 217).image } (some ".init")) .sectionRead := by
  intro b
  have hname : ".init".length = 5 := by decide
  have hnames : (utf8 ".init").length = 5 := by decide
  have htable : (utf8 tableName).length = 9 := by decide
  have hlength (d : UInt64) : (b d).image.length = 280 := by
    simp [length_image, sectionOffset, padding, namesOffset, names, b, hnames, htable]
  have hfits (d : UInt64) : (b d).Fits := by
    refine ⟨?_, ?_⟩
    · rw [hlength]
      decide
    · simp [b, hname]
  have hplain : Plain ".init" := by decide
  have hload (d : UInt64) (hd : d.toNat < 2 ^ 63) :=
    ((load_image {} (hfits d) hplain (show ".init" ≠ ".shstrtab" by decide) hd
      (show ".init" ≠ "" by decide)).2 .arm64 (.inr ⟨rfl, rfl⟩)).2 rfl
  refine ⟨(hload 216 (by decide)).2.1 ?_, (hload 217 (by decide)).1.mpr ?_⟩
  · rw [hlength]
    decide
  · rw [hlength]
    decide

/-! ## Images that are cut off -/

section
variable {img : Image}

/-- Fields that cannot be read make an image malformed, whatever the reason. -/
theorem Image.fields_error {big : Bool} {cause : Problem} {widths : List Nat} :
    ∀ {pos : Nat}, img.fields big pos widths = .error cause → cause.report = .malformed := by
  induction widths with
  | nil =>
    intro pos h
    cases h
  | cons width widths ih =>
    intro pos h
    simp only [Image.fields, Image.field, bind, Except.bind] at h
    cases hread : img.read? pos width with
    | none =>
      rw [hread] at h
      cases h
      rfl
    | some bs =>
      simp only [hread] at h
      by_cases hshort : bs.length < width
      · rw [if_pos hshort] at h
        cases h
        rfl
      · rw [if_neg hshort] at h
        cases hrest : img.fields big (pos + width) widths with
        | ok ns =>
          rw [hrest] at h
          cases h
        | error e =>
          rw [hrest] at h
          cases h
          exact ih hrest

theorem SectionHeader.read_error {h : Header} {index : Nat} {cause : Problem}
    (herror : SectionHeader.read img h index = .error cause) : cause.report = .malformed := by
  simp only [SectionHeader.read, bind, Except.bind] at herror
  split at herror
  · cases herror
    rfl
  · split at herror
    · cases herror
      rfl
    · split at herror
      · rename_i hfields
        cases herror
        exact Image.fields_error hfields
      · cases herror

theorem Header.readChoice_error (hwhole : img.broken = none) {pos : Nat} {cause : Problem}
    {complaint : List UInt8 → Problem} (hmalformed : ∀ bs, (complaint bs).report = .malformed)
    (herror : Header.readChoice img pos complaint = .error cause) : cause.report = .malformed := by
  simp only [Header.readChoice, Image.read_eq hwhole, bind, Except.bind] at herror
  split at herror
  · cases herror
  · split at herror
    · cases herror
    · cases herror
      exact hmalformed _

theorem Header.read_error (hwhole : img.broken = none) {cause : Problem}
    (herror : Header.read img = .error cause) : cause.report = .malformed := by
  simp only [Header.read, Image.read_eq hwhole, bind, Except.bind] at herror
  split at herror
  · cases herror
    rfl
  · split at herror
    · rename_i hwide
      cases herror
      exact readChoice_error hwhole (fun _ => rfl) hwide
    · split at herror
      · rename_i hbig
        cases herror
        exact readChoice_error hwhole (fun _ => rfl) hbig
      · split at herror
        · rename_i hfields
          cases herror
          exact Image.fields_error hfields
        · cases herror

/-- A file header is read only if its fields are, in the width that the fifth byte gives. -/
theorem Header.fields_of_read {h : Header} (hread : Header.read img = .ok h) :
    Header.readChoice img 4 .badClass = .ok h.wide ∧
      ∃ fs, img.fields h.big 0 (Header.widths h.wide) = .ok fs := by
  simp only [Header.read, bind, Except.bind] at hread
  split at hread
  · cases hread
  · split at hread
    · cases hread
    · split at hread
      · cases hread
      · rename_i hwide
        split at hread
        · cases hread
        · split at hread
          · cases hread
          · rename_i hfields
            cases hread
            exact ⟨hwide, _, hfields⟩

theorem fails_malformed {stage : Stage} {cause : Problem} (h : cause.report = .malformed) :
    Fails (.error (.during stage cause)) .malformedContainer := by
  refine ⟨_, rfl, ?_⟩
  rw [Fault.during, h]
  rfl

end

namespace Blueprint

variable {img : Image} (b : Blueprint) (hwhole : img.broken = none)
include hwhole

/-- A section header that reaches past the end is not read. -/
theorem read_cutSection (index : Nat)
    (hshort : img.bytes.length < b.sectionOffset + index * 64 + 64) :
    ∃ cause, SectionHeader.read img b.header index = .error cause := by
  have hentry : ¬ b.header.sectionEntrySize < SectionHeader.headerSize b.header.wide :=
    show ¬ 64 < SectionHeader.headerSize true by decide
  simp only [SectionHeader.read, bind, Except.bind]
  rw [if_neg hentry]
  by_cases hpast : img.bytes.length < b.header.sectionOffset + index * b.header.sectionEntrySize
  · rw [if_pos hpast]
    exact ⟨_, rfl⟩
  · obtain ⟨expected, found, hfields⟩ := Image.fields_short hwhole b.header.big
      (SectionHeader.widths b.header.wide) _ (Nat.le_of_not_lt hpast) hshort
    rw [if_neg hpast, hfields]
    exact ⟨_, rfl⟩

/-- Without the last section header there is no table of names. -/
theorem nameOf_cut (hshort : img.bytes.length < b.sectionOffset + 192) (s : SectionHeader) :
    Section.nameOf img b.header s = .error .noNameTable := by
  obtain ⟨cause, hlast⟩ := read_cutSection b hwhole 2 hshort
  have hindex : ¬ b.header.nameTableIndex = 0xffff := by simp [header]
  have htable : b.header.nameTable img = .error .noNameTable := by
    simp only [Header.nameTable, if_neg hindex]
    rw [show b.header.nameTableIndex = 2 from rfl, hlast]
    rfl
  rw [Section.nameOf, htable]
  rfl

/-- The first section is not read: its header is cut off, or there is no name for it. -/
theorem readAll_cut (hshort : img.bytes.length < b.sectionOffset + 192) :
    ∃ cause, Section.readAll img b.header = .error cause ∧ cause.report = .malformed := by
  simp only [Section.readAll, countSections_header, Section.readFrom, Section.read, bind,
    Except.bind]
  cases hfirst : SectionHeader.read img b.header 0 with
  | ok s =>
    simp only [nameOf_cut b hwhole hshort]
    exact ⟨_, rfl, rfl⟩
  | error cause =>
    exact ⟨cause, rfl, SectionHeader.read_error hfirst⟩

/-- A file header that is read is there in full. -/
theorem length_of_read {whole : Image} (hbytes : whole.bytes = b.image)
    (hcut : img.bytes <+: whole.bytes) {h : Header} (hread : Header.read img = .ok h) :
    64 ≤ img.bytes.length := by
  obtain ⟨hwide, fs, hfields⟩ := Header.fields_of_read hread
  have hroom : (Header.widths h.wide).sum ≤ img.bytes.length := by
    by_contra hshort
    obtain ⟨_, _, herror⟩ := Image.fields_short hwhole h.big (Header.widths h.wide) 0
      (Nat.zero_le _) (by omega)
    rw [herror] at hfields
    cases hfields
  cases hclass : h.wide with
  | true =>
    rw [hclass] at hroom
    exact hroom
  | false =>
    -- a narrow header is shorter, but the fifth byte of the image says that it is wide
    rw [hclass] at hroom hwide
    have hfive : 52 ≤ img.bytes.length := hroom
    have hheld := (holds_image hbytes).left.right.left.of_isPrefix hcut (by
      show 4 + 1 ≤ _
      omega)
    have hbyte : img.read 4 1 = .ok [2] := hheld.read hwhole
    rw [Header.readChoice, hbyte] at hwide
    cases hwide

end Blueprint

open Blueprint in
/-- **An image that is cut off is malformed.** Whatever is left of the image of a blueprint for a
supported machine, if it is not all of it: loading ends in a malformed container, for every section
that is asked for, in memory and on a disk. -/
theorem load_cut (c : Config) {b : Blueprint} (hfits : b.Fits)
    (hmachine : b.machine = 62 ∨ b.machine = 183) {left : List UInt8} (hcut : left <+: b.image)
    (hproper : left ≠ b.image) (onDisk : Bool) (requested : Option String) :
    Fails (load c { bytes := left, onDisk := onDisk } requested) .malformedContainer := by
  let img : Image := { bytes := left, onDisk := onDisk }
  let whole : Image := { bytes := b.image }
  have hwhole : img.broken = none := rfl
  have hbytes : whole.bytes = b.image := rfl
  have hshort : left.length < b.image.length := by
    rcases Nat.lt_or_eq_of_le hcut.length_le with hlt | heq
    · exact hlt
    · exact absurd (hcut.eq_of_length heq) hproper
  cases hread : Header.read img with
  | error cause =>
    rw [load_of_header_error hread]
    exact fails_malformed (Header.read_error hwhole hread)
  | ok h =>
    have hroom := length_of_read b hwhole hbytes hcut hread
    have hheader : img.Holds 0 b.fileHeader := (holds_image hbytes).left.of_isPrefix hcut (by
      rw [length_fileHeader]
      omega)
    have hread := read_fileHeader hfits hwhole hheader
    obtain ⟨arch, harch⟩ : ∃ arch, archOf? b.header.machine = some arch := by
      rcases hmachine with h | h
      · exact ⟨.amd64, archOf?_header (.inl ⟨h, rfl⟩)⟩
      · exact ⟨.arm64, archOf?_header (.inr ⟨h, rfl⟩)⟩
    rw [length_image] at hshort
    obtain ⟨cause, hall, hmalformed⟩ := readAll_cut b hwhole hshort
    rw [load_of_sections_error hread harch hall]
    exact fails_malformed hmalformed

open Blueprint in
/-- One byte is missing, the last of the last section header. -/
theorem load_cut_last_byte :
    let b : Blueprint := ⟨[0xc3], 62, 0xffffffffffffffff, ".text", none⟩
    b.image.length = 280 ∧
      Fails (load {} { bytes := b.image.take 279, onDisk := true } (some ".shstrtab"))
        .malformedContainer := by
  intro b
  have hlength : b.image.length = 280 := by decide +kernel
  have hfits : b.Fits := ⟨by rw [hlength]; decide, by decide⟩
  have hproper : b.image.take 279 ≠ b.image := by
    intro heq
    have hshort := congrArg List.length heq
    rw [List.length_take, hlength] at hshort
    omega
  exact ⟨hlength, load_cut {} hfits (.inl rfl) (List.take_prefix 279 b.image) hproper true _⟩

end Elf
end EntryScan
