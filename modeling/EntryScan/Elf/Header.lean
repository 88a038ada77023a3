import EntryScan.Elf.Image
import EntryScan.Text.Utf8

/-!
# EntryScan.Elf.Header

The headers of an ELF image: the file header, and the section headers with their names. Every
field is read on its own, in file order, so the first field that is cut off or unreadable decides
what is reported.
-/

namespace EntryScan
namespace Elf

/-- What the loader needs of the file header. -/
structure Header where
  /-- A 64-bit image. -/
  wide : Bool
  /-- Numbers have their most significant byte first. -/
  big : Bool
  machine : Nat
  sectionOffset : Nat
  sectionEntrySize : Nat
  sectionCount : Nat
  nameTableIndex : Nat
deriving DecidableEq, Repr

/-- What the loader needs of a section header. -/
structure SectionHeader where
  name : Nat
  type : Nat
  flags : Nat
  address : Nat
  offset : Nat
  size : Nat
  link : Nat
  entrySize : Nat
deriving DecidableEq, Repr

namespace Header

def wordSize (wide : Bool) : Nat := if wide then 8 else 4

def widths (wide : Bool) : List Nat :=
  let w := wordSize wide
  List.replicate 9 1 ++ [7, 2, 2, 4, w, w, w, 4, 2, 2, 2, 2, 2, 2]

/-- The four bytes that start every image. -/
def magic : List UInt8 := [0x7f, 0x45, 0x4c, 0x46]

/-- Reads a byte that must be 1 or 2, and tells whether it is 2. -/
def readChoice (img : Image) (pos : Nat) (complaint : List UInt8 → Problem) :
    Except Problem Bool := do
  let b ← img.read pos 1
  if b = [1] then return false
  else if b = [2] then return true
  else .error (complaint b)

def read (img : Image) : Except Problem Header := do
  let start ← img.read 0 4
  if start ≠ magic then .error .badMagic
  let wide ← readChoice img 4 .badClass
  let big ← readChoice img 5 .badByteOrder
  let fs ← img.fields big 0 (widths wide)
  return {
    wide := wide
    big := big
    machine := fs.getD 11 0
    sectionOffset := fs.getD 15 0
    sectionEntrySize := fs.getD 20 0
    sectionCount := fs.getD 21 0
    nameTableIndex := fs.getD 22 0 }

def machineNames : List (Nat × String) :=
  [(0, "EM_NONE"), (3, "EM_386"), (8, "EM_MIPS"), (21, "EM_PPC64"), (40, "EM_ARM"),
    (62, "EM_X86_64"), (183, "EM_AARCH64"), (243, "EM_RISCV")]

/-- The name of the machine, or its number. -/
def machineName (h : Header) : String :=
  (machineNames.lookup h.machine).getD (toString h.machine)

end Header

namespace SectionHeader

def widths (wide : Bool) : List Nat :=
  let w := Header.wordSize wide
  [4, 4, w, w, w, w, 4, 4, w, w]

def headerSize (wide : Bool) : Nat := (widths wide).foldl (· + ·) 0

def read (img : Image) (h : Header) (index : Nat) : Except Problem SectionHeader := do
  let offset := h.sectionOffset + index * h.sectionEntrySize
  if h.sectionEntrySize < headerSize h.wide then .error (.smallEntry h.sectionEntrySize)
  if img.bytes.length < offset then .error (.headerPastEnd index offset img.bytes.length)
  let fs ← img.fields h.big offset (widths h.wide)
  return {
    name := fs.getD 0 0
    type := fs.getD 1 0
    flags := fs.getD 2 0
    address := fs.getD 3 0
    offset := fs.getD 4 0
    size := fs.getD 5 0
    link := fs.getD 6 0
    entrySize := fs.getD 9 0 }

def typeNames : List (Nat × String) :=
  [(0, "SHT_NULL"), (1, "SHT_PROGBITS"), (2, "SHT_SYMTAB"), (3, "SHT_STRTAB"), (4, "SHT_RELA"),
    (5, "SHT_HASH"), (6, "SHT_DYNAMIC"), (7, "SHT_NOTE"), (8, "SHT_NOBITS"), (9, "SHT_REL"),
    (11, "SHT_DYNSYM")]

/-- The name of the type, or its number. -/
def typeName (s : SectionHeader) : String :=
  (typeNames.lookup s.type).getD (toString s.type)

def isCompressed (s : SectionHeader) : Bool := s.flags / 0x800 % 2 = 1

/-- Whether the section has no bytes in the file. -/
def isEmptyInFile (s : SectionHeader) : Bool := s.type = 8

end SectionHeader

namespace Header

/-- The number of sections. A count of zero stands for the size in the first section header. -/
def countSections (img : Image) (h : Header) : Except Problem Nat := do
  if h.sectionOffset = 0 then return 0
  else if h.sectionCount = 0 then return (← SectionHeader.read img h 0).size
  else return h.sectionCount

/-- The header of the table of section names. The index `0xffff` stands for the link in the first
section header. Whatever goes wrong, the table is reported as missing. -/
def nameTable (img : Image) (h : Header) : Except Problem SectionHeader :=
  let found := do
    if h.nameTableIndex = 0xffff then
      SectionHeader.read img h (← SectionHeader.read img h 0).link
    else SectionHeader.read img h h.nameTableIndex
  found.mapError fun _ => .noNameTable

end Header
end Elf
end EntryScan
