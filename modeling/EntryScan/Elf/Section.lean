import EntryScan.Deflate
import EntryScan.Elf.Header

/-!
# EntryScan.Elf.Section

The sections of an ELF image. A section is taken into the list only after the checks that its type
asks for; a section that fails them makes the whole image malformed, whichever section is wanted.
-/

namespace EntryScan
namespace Elf

/-- How a body is compressed, and its size once expanded. -/
structure Compression where
  type : Nat
  size : Nat
deriving DecidableEq, Repr

structure Section where
  name : String
  header : SectionHeader
  compression : Option Compression
deriving DecidableEq, Repr

namespace Compression

def widths (wide : Bool) : List Nat := if wide then [4, 4, 8, 8] else [4, 4, 4]

def headerSize (wide : Bool) : Nat := (widths wide).foldl (· + ·) 0

def read (img : Image) (h : Header) (s : SectionHeader) : Except Problem Compression := do
  img.checkOffset s.offset
  let fs ← img.fields h.big s.offset (widths h.wide)
  return ⟨fs.getD 0 0, fs.getD (if h.wide then 2 else 1) 0⟩

/-- The type as messages show it: some numbers have a name, which is quoted. -/
def typeText (c : Compression) : String :=
  let names := [(0x60000000, "ELFCOMPRESS_LOOS"), (0x6fffffff, "ELFCOMPRESS_HIOS"),
    (0x70000000, "ELFCOMPRESS_LOPROC"), (0x7fffffff, "ELFCOMPRESS_HIPROC")]
  match names.lookup c.type with
  | some name => Text.quoted name
  | none => Number.hexNat c.type

end Compression

namespace Section

def symbolTypes : List Nat := [2, 11]

/-- The sections that refer to symbols: hash tables and symbol versions. -/
def symbolUserTypes : List Nat := [5, 0x6ffffff6, 0x6fffffff]

/-- Checks the sizes that a section's type asks for. -/
def checkSizes (wide : Bool) (name : String) (s : SectionHeader) : Except Problem Unit :=
  if symbolTypes.contains s.type then
    if s.entrySize = 0 then .error (.symbolSize name)
    else if s.size % s.entrySize ≠ 0 then .error (.symbolCount name)
    else .ok ()
  else if s.type = 4 then
    let expected := if wide then 24 else 12
    if s.entrySize ≠ expected then .error (.relocationSize "SHT_RELA" expected) else .ok ()
  else if s.type = 9 then
    let expected := if wide then 16 else 8
    if s.entrySize ≠ expected then .error (.relocationSize "SHT_REL" expected) else .ok ()
  else if s.type = 19 then
    let expected := Header.wordSize wide
    if s.entrySize ≠ expected then .error (.relativeRelocationSize expected s.entrySize)
    else .ok ()
  else .ok ()

def compressionOf (img : Image) (h : Header) (s : SectionHeader) :
    Except Problem (Option Compression) := do
  if s.isCompressed then return some (← Compression.read img h s) else return none

/-- The name of a section. The table of names is a section too, and its compression header is
read, although names are looked up in the bytes as they stand in the image. -/
def nameOf (img : Image) (h : Header) (s : SectionHeader) : Except Problem String := do
  let table ← h.nameTable img
  let _ ← compressionOf img h table
  return String.ofList (Text.decodeUtf8 (← img.textAt (table.offset + s.name)))

def checkNames (img : Image) (h : Header) (s : SectionHeader) : Except Problem Unit := do
  let linked ← SectionHeader.read img h s.link
  if linked.type ≠ 3 then .error (.symbolsWithoutNames s.link linked.typeName)
  let _ ← nameOf img h linked
  let _ ← compressionOf img h linked

def checkSymbols (img : Image) (h : Header) (s : SectionHeader) : Except Problem Unit := do
  let linked ← SectionHeader.read img h s.link
  if !symbolTypes.contains linked.type then .error (.linkWithoutSymbols s.link linked.typeName)
  let name ← nameOf img h linked
  checkNames img h linked
  let _ ← compressionOf img h linked
  checkSizes h.wide name linked

def checkLink (img : Image) (h : Header) (s : SectionHeader) : Except Problem Unit :=
  if symbolTypes.contains s.type then checkNames img h s
  else if symbolUserTypes.contains s.type then checkSymbols img h s
  else .ok ()

def read (img : Image) (h : Header) (index : Nat) : Except Problem Section := do
  let header ← SectionHeader.read img h index
  let name ← nameOf img h header
  checkLink img h header
  let compression ← compressionOf img h header
  checkSizes h.wide name header
  return ⟨name, header, compression⟩

def readFrom (img : Image) (h : Header) (index : Nat) : Nat → Except Problem (List Section)
  | 0 => .ok []
  | count + 1 => do
    let s ← read img h index
    let rest ← readFrom img h (index + 1) count
    return s :: rest

def readAll (img : Image) (h : Header) : Except Problem (List Section) := do
  readFrom img h 0 (← h.countSections img)

/-- The section of a name; the last one, if there are several. -/
def named? (sections : List Section) (name : String) : Option Section :=
  sections.reverse.find? (·.name == name)

/-- The bytes of a section as they stand in the image, fewer than its size at the end of it. -/
def plainBody (img : Image) (s : SectionHeader) : Except Problem (List UInt8) := do
  img.checkOffset s.offset
  img.checkSize s.size
  img.read s.offset s.size

def expandedBody (img : Image) (wide : Bool) (s : SectionHeader) (c : Compression) :
    Except Problem (List UInt8) := do
  if c.type ≠ 1 then .error (.unknownCompression c.typeText)
  let start := s.offset + Compression.headerSize wide
  img.checkOffset start
  -- a section smaller than its compression header is read to the end of the file
  let size := if s.size < Compression.headerSize wide then img.bytes.length
    else s.size - Compression.headerSize wide
  img.checkSize size
  let packed ← img.read start size
  if Image.offsetLimit ≤ c.size then .error .offsetTooLarge
  let data ← (Deflate.expand c.size packed).mapError .badStream
  if data.length ≠ c.size then .error (.expandedSize data.length c.size)
  return data

def body (img : Image) (wide : Bool) (s : Section) : Except Problem (List UInt8) :=
  match s.compression with
  | some c => expandedBody img wide s.header c
  | none => plainBody img s.header

end Section
end Elf
end EntryScan
