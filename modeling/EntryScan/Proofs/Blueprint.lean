import EntryScan.Elf.Load
import EntryScan.Proofs.ImageContents

/-!
# EntryScan.Proofs.Blueprint

Images made to order: 64 bits wide, the least significant byte first, with one section of code, a
table of names behind it and three section headers at the end.

* `Elf.Blueprint.image`: the image, part by part.
* `holds_names`, `holds_sectionHeaders`: where the parts stand.
* `read_fileHeader`, `read_sectionHeader`, `readAll_image`: the headers are read back with the
  numbers they were made of, and the sections with their names.
-/

namespace EntryScan
namespace Elf

/-- What an image is made of. -/
structure Blueprint where
  code : List UInt8
  machine : UInt16
  address : UInt64
  /-- The name of the section of code. -/
  name : String
  /-- The size that its header gives; without one, the size of the code. -/
  declared : Option UInt64 := none

namespace Blueprint

/-- The name of the section that holds the names. -/
def tableName : String := ".shstrtab"

/-- A text in UTF-8. -/
def utf8 (text : String) : List UInt8 := text.toList.flatMap String.utf8EncodeChar

/-- The size that the header of the code gives. -/
def size (b : Blueprint) : Nat := (b.declared.map UInt64.toNat).getD b.code.length

/-- The names, each with a zero byte behind it; the first one is empty. -/
def names (b : Blueprint) : List UInt8 :=
  [0] ++ (utf8 b.name ++ [0] ++ (utf8 tableName ++ [0]))

/-- Where the names begin. -/
def namesOffset (b : Blueprint) : Nat := 64 + b.code.length

/-- The zero bytes behind the names, up to the next multiple of eight. -/
def padding (b : Blueprint) : Nat := (8 - (b.namesOffset + b.names.length) % 8) % 8

/-- Where the section headers begin. -/
def sectionOffset (b : Blueprint) : Nat := b.namesOffset + b.names.length + b.padding

/-- The file header: identification, then type, machine, version, entry, program headers, section
headers, flags, and the sizes and counts of headers. -/
def fileHeader (b : Blueprint) : List UInt8 :=
  Header.magic ++ ([2] ++ ([1] ++ ([1, 0] ++ List.replicate 8 0 ++ Bytes.pack
    [(2, 2), (2, b.machine.toNat), (4, 1), (8, b.address.toNat), (8, 0), (8, b.sectionOffset),
      (4, 0), (2, 64), (2, 0), (2, 0), (2, 64), (2, 3), (2, 2)])))

/-- A section header; nothing is linked, and there are no entries. -/
def sectionHeader (name type flags address offset size align : Nat) : List UInt8 :=
  Bytes.pack [(4, name), (4, type), (8, flags), (8, address), (8, offset), (8, size), (4, 0),
    (4, 0), (8, align), (8, 0)]

/-- The headers of no section, of the code and of the names. -/
def sectionHeaders (b : Blueprint) : List UInt8 :=
  sectionHeader 0 0 0 0 0 0 0 ++
    (sectionHeader 1 1 6 b.address.toNat 64 b.size 16 ++
      sectionHeader (b.name.length + 2) 3 0 0 b.namesOffset b.names.length 1)

/-- The image. -/
def image (b : Blueprint) : List UInt8 :=
  b.fileHeader ++ (b.code ++ (b.names ++ (List.replicate b.padding 0 ++ b.sectionHeaders)))

/-- The image exists: its positions are signed numbers of 64 bits, and the offset of the second
name is a number of 32 bits. -/
structure Fits (b : Blueprint) : Prop where
  length : b.image.length < 2 ^ 63
  name : b.name.length + 2 < 2 ^ 32

/-- A text of ASCII characters other than zero. -/
def Plain (text : String) : Prop := ∀ c ∈ text.toList, 0 < c.toNat ∧ c.toNat < 128

instance (text : String) : Decidable (Plain text) :=
  decidable_of_iff (text.toList.all (fun c => 0 < c.toNat ∧ c.toNat < 128) = true) (by simp [Plain])

/-! ## Texts -/

theorem utf8EncodeChar_of_ascii {c : Char} (h : c.toNat < 128) :
    String.utf8EncodeChar c = [UInt8.ofNat c.toNat] := by
  simp [String.utf8EncodeChar, Nat.le_of_lt_succ h]

variable {text : String}

theorem Plain.utf8_eq (h : Plain text) : utf8 text = text.toList.map (UInt8.ofNat ·.toNat) := by
  rw [utf8, List.map_eq_flatMap]
  exact List.flatMap_congr fun c hc => utf8EncodeChar_of_ascii (h c hc).2

theorem Plain.length_utf8 (h : Plain text) : (utf8 text).length = text.length := by
  rw [h.utf8_eq, List.length_map, String.length_toList]

theorem Plain.zero_notMem (h : Plain text) : 0 ∉ utf8 text := by
  rw [h.utf8_eq, List.mem_map]
  rintro ⟨c, hc, hzero⟩
  have hnat := congrArg UInt8.toNat hzero
  have := h c hc
  simp only [UInt8.toNat_ofNat', UInt8.toNat_zero] at hnat
  omega

theorem decodeUtf8_ascii (cs : List Char) (h : ∀ c ∈ cs, c.toNat < 128) :
    Text.decodeUtf8 (cs.map (UInt8.ofNat ·.toNat)) = cs := by
  induction cs with
  | nil => rw [List.map_nil, Text.decodeUtf8]
  | cons c cs ih =>
    have hc := h c List.mem_cons_self
    have hbyte : (UInt8.ofNat c.toNat).toNat = c.toNat := by
      rw [UInt8.toNat_ofNat']
      omega
    rw [List.map_cons, Text.decodeUtf8, hbyte, if_pos hc, Char.ofNat_toNat,
      ih fun d hd => h d (List.mem_cons_of_mem _ hd)]

theorem Plain.decode_utf8 (h : Plain text) :
    String.ofList (Text.decodeUtf8 (utf8 text)) = text := by
  rw [h.utf8_eq, decodeUtf8_ascii _ fun c hc => (h c hc).2, String.ofList_toList]

theorem plain_tableName : Plain tableName := by decide

/-! ## Where the parts stand -/

variable {b : Blueprint} {img : Image}

theorem length_fileHeader (b : Blueprint) : b.fileHeader.length = 64 := rfl

theorem length_sectionHeader (name type flags address offset size align : Nat) :
    (sectionHeader name type flags address offset size align).length = 64 := rfl

theorem length_sectionHeaders (b : Blueprint) : b.sectionHeaders.length = 192 := by
  simp only [sectionHeaders, List.length_append, length_sectionHeader]

theorem length_image (b : Blueprint) : b.image.length = b.sectionOffset + 192 := by
  simp only [image, List.length_append, length_fileHeader, List.length_replicate,
    length_sectionHeaders, sectionOffset, namesOffset]
  omega

theorem holds_image (h : img.bytes = b.image) : img.Holds 0 b.image := by
  rw [Image.Holds, List.drop_zero, h]

theorem holds_names (h : img.bytes = b.image) : img.Holds b.namesOffset b.names := by
  have hbody := (holds_image h).right
  rw [length_fileHeader, Nat.zero_add] at hbody
  exact hbody.right.left

theorem holds_sectionHeaders (h : img.bytes = b.image) :
    img.Holds b.sectionOffset b.sectionHeaders := by
  have hbody := (holds_image h).right
  rw [length_fileHeader, Nat.zero_add] at hbody
  have hheaders := hbody.right.right.right
  rwa [List.length_replicate] at hheaders

theorem Fits.size_lt (h : b.Fits) : b.size < 2 ^ 64 := by
  have hlength := h.length
  rw [length_image, sectionOffset, namesOffset] at hlength
  rw [size]
  cases b.declared with
  | none =>
    simp only [Option.map_none, Option.getD_none]
    omega
  | some d =>
    simp only [Option.map_some, Option.getD_some]
    exact d.toNat_lt

/-! ## The headers -/

/-- The file header as it is read. -/
def header (b : Blueprint) : Header where
  wide := true
  big := false
  machine := b.machine.toNat
  sectionOffset := b.sectionOffset
  sectionEntrySize := 64
  sectionCount := 3
  nameTableIndex := 2

theorem fileHeader_eq_pack (b : Blueprint) : b.fileHeader = Bytes.pack
    ([(1, 0x7f), (1, 0x45), (1, 0x4c), (1, 0x46), (1, 2), (1, 1), (1, 1), (1, 0), (1, 0), (7, 0)] ++
    [(2, 2), (2, b.machine.toNat), (4, 1), (8, b.address.toNat), (8, 0), (8, b.sectionOffset),
      (4, 0), (2, 64), (2, 0), (2, 0), (2, 64), (2, 3), (2, 2)]) := rfl

theorem read_fileHeader (hfits : b.Fits) (hwhole : img.broken = none)
    (h : img.Holds 0 b.fileHeader) : Header.read img = .ok b.header := by
  have hoffset : b.sectionOffset < 2 ^ 64 := by
    have hlength := hfits.length
    rw [length_image] at hlength
    omega
  have hmagic : img.read 0 4 = .ok Header.magic := h.left.read hwhole
  have hclass : img.read 4 1 = .ok [2] := h.right.left.read hwhole
  have horder : img.read 5 1 = .ok [1] := h.right.right.left.read hwhole
  have hfields := (fileHeader_eq_pack b ▸ h).fields hwhole (by
    simpa using ⟨b.machine.toNat_lt, b.address.toNat_lt, hoffset⟩)
  have hwide : Header.readChoice img 4 .badClass = .ok true := by
    rw [Header.readChoice, hclass]
    rfl
  have hbig : Header.readChoice img 5 .badByteOrder = .ok false := by
    rw [Header.readChoice, horder]
    rfl
  have hread : img.fields false 0 (Header.widths true) = .ok _ := hfields
  simp only [Header.read, hmagic, hwide, hbig, hread, bind, Except.bind, ne_eq, not_true_eq_false,
    if_false]
  rfl

theorem read_sectionHeader (hwhole : img.broken = none)
    {index name type flags address offset size align : Nat}
    (hname : name < 2 ^ 32) (htype : type < 2 ^ 32) (hflags : flags < 2 ^ 64)
    (haddress : address < 2 ^ 64) (hoffset : offset < 2 ^ 64) (hsize : size < 2 ^ 64)
    (halign : align < 2 ^ 64)
    (h : img.Holds (b.sectionOffset + index * 64)
      (sectionHeader name type flags address offset size align)) :
    SectionHeader.read img b.header index =
      .ok ⟨name, type, flags, address, offset, size, 0, 0⟩ := by
  have hroom := h.length_le
  rw [length_sectionHeader] at hroom
  have hfields : img.fields false (b.sectionOffset + index * 64) (SectionHeader.widths true) =
      .ok _ := h.fields hwhole (by
    simpa using ⟨hname, htype, hflags, haddress, hoffset, hsize, halign⟩)
  have hentry : ¬ (64 : Nat) < SectionHeader.headerSize true := by decide
  have hpast : ¬ img.bytes.length < b.sectionOffset + index * 64 := by omega
  simp only [SectionHeader.read, header, if_neg hentry, if_neg hpast, hfields, bind, Except.bind]
  rfl

theorem countSections_header (b : Blueprint) (img : Image) :
    b.header.countSections img = .ok 3 := by
  have hpos : ¬ b.header.sectionOffset = 0 := by simp [header, sectionOffset, namesOffset]
  rw [Header.countSections, if_neg hpos]
  rfl

/-! ## The sections -/

/-- The header of no section. -/
def noHeader : SectionHeader := ⟨0, 0, 0, 0, 0, 0, 0, 0⟩

/-- The header of the code as it is read. -/
def codeHeader (b : Blueprint) : SectionHeader := ⟨1, 1, 6, b.address.toNat, 64, b.size, 0, 0⟩

/-- The header of the names as it is read. -/
def tableHeader (b : Blueprint) : SectionHeader :=
  ⟨b.name.length + 2, 3, 0, 0, b.namesOffset, b.names.length, 0, 0⟩

/-- The sections of an image, each with its name. -/
def sections (b : Blueprint) : List Section :=
  [⟨"", noHeader, none⟩, ⟨b.name, b.codeHeader, none⟩, ⟨tableName, b.tableHeader, none⟩]

theorem not_compressed (b : Blueprint) : noHeader.isCompressed = false ∧
    b.codeHeader.isCompressed = false ∧ b.tableHeader.isCompressed = false := by
  simp [SectionHeader.isCompressed, noHeader, codeHeader, tableHeader]

section
variable (hfits : b.Fits) (hwhole : img.broken = none) (h : img.bytes = b.image)
include hfits hwhole h

omit hfits in
theorem read_noHeader : SectionHeader.read img b.header 0 = .ok noHeader := by
  have hheader := (holds_sectionHeaders h).left
  exact read_sectionHeader hwhole (by decide) (by decide) (by decide) (by decide) (by decide)
    (by decide) (by decide) hheader

theorem read_codeHeader : SectionHeader.read img b.header 1 = .ok b.codeHeader := by
  have hheader := (holds_sectionHeaders h).right.left
  rw [length_sectionHeader] at hheader
  exact read_sectionHeader hwhole (by decide) (by decide) (by decide) b.address.toNat_lt
    (by decide) hfits.size_lt (by decide) hheader

theorem read_tableHeader : SectionHeader.read img b.header 2 = .ok b.tableHeader := by
  have hheader := (holds_sectionHeaders h).right.right
  rw [length_sectionHeader, length_sectionHeader, Nat.add_assoc] at hheader
  have hlength := hfits.length
  rw [length_image, sectionOffset] at hlength
  exact read_sectionHeader hwhole hfits.name (by decide) (by decide) (by decide) (by omega)
    (by omega) (by decide) hheader

theorem nameTable_image : b.header.nameTable img = .ok b.tableHeader := by
  have hindex : ¬ b.header.nameTableIndex = 0xffff := by simp [header]
  simp only [Header.nameTable, if_neg hindex]
  rw [show b.header.nameTableIndex = 2 from rfl, read_tableHeader hfits hwhole h]
  rfl

theorem nameOf_image {s : SectionHeader} (hplain : Plain text)
    (hname : img.Holds (b.namesOffset + s.name) (utf8 text ++ [0])) :
    Section.nameOf img b.header s = .ok text := by
  have htext := hname.textAt hwhole (h ▸ hfits.length) hplain.zero_notMem
  have hraw : Section.compressionOf img b.header b.tableHeader = .ok none := by
    rw [Section.compressionOf, (not_compressed b).2.2]
    rfl
  simp only [Section.nameOf, nameTable_image hfits hwhole h, hraw, bind, Except.bind]
  rw [show b.tableHeader.offset = b.namesOffset from rfl, htext]
  simp only [hplain.decode_utf8]
  rfl

omit hfits hwhole h in
/-- A section of a type that asks for nothing more is read as it stands. -/
theorem read_section {index : Nat} {s : SectionHeader}
    (hheader : SectionHeader.read img b.header index = .ok s)
    (hname : Section.nameOf img b.header s = .ok text)
    (htype : s.type = 0 ∨ s.type = 1 ∨ s.type = 3) (hraw : s.isCompressed = false) :
    Section.read img b.header index = .ok ⟨text, s, none⟩ := by
  have hlink : Section.checkLink img b.header s = .ok () := by
    rcases htype with ht | ht | ht <;>
      simp [Section.checkLink, Section.symbolTypes, Section.symbolUserTypes, ht]
  have hsizes : Section.checkSizes b.header.wide text s = .ok () := by
    rcases htype with ht | ht | ht <;> simp [Section.checkSizes, Section.symbolTypes, ht]
  have hcompression : Section.compressionOf img b.header s = .ok none := by
    rw [Section.compressionOf, hraw]
    rfl
  simp only [Section.read, hheader, hname, hlink, hcompression, hsizes, bind, Except.bind]
  rfl

theorem readAll_image (hplain : Plain b.name) :
    Section.readAll img b.header = .ok b.sections := by
  have hnames := holds_names h
  have hempty : Section.nameOf img b.header noHeader = .ok "" :=
    nameOf_image hfits hwhole h (by simp [Plain]) hnames.left
  have hcode : Section.nameOf img b.header b.codeHeader = .ok b.name :=
    nameOf_image hfits hwhole h hplain hnames.right.left
  have htable : Section.nameOf img b.header b.tableHeader = .ok tableName := by
    have hlast := hnames.right.right
    rw [List.length_append, hplain.length_utf8, List.length_singleton, Nat.add_assoc,
      Nat.add_comm 1] at hlast
    exact nameOf_image hfits hwhole h plain_tableName hlast
  obtain ⟨hraw, hrawCode, hrawTable⟩ := not_compressed b
  have hfirst := read_section (read_noHeader hwhole h) hempty (.inl rfl) hraw
  have hsecond := read_section (read_codeHeader hfits hwhole h) hcode (.inr (.inl rfl)) hrawCode
  have hthird := read_section (read_tableHeader hfits hwhole h) htable (.inr (.inr rfl)) hrawTable
  simp only [Section.readAll, countSections_header, Section.readFrom, bind, Except.bind]
  simp only [hfirst, hsecond, hthird]
  rfl

end
end Blueprint
end Elf
end EntryScan
