import EntryScan.Deflate.Code
import EntryScan.Number.Hex

/-!
# EntryScan.Elf.Problem

Why a part of an ELF image cannot be used, with the wording of each cause. Three kinds are told
apart, because they are reported differently: the image is malformed, it cannot be read, or the
request cannot be carried out at all.
-/

namespace EntryScan
namespace Elf

inductive Problem where
  | badMagic
  | badClass (found : List UInt8)
  | badByteOrder (found : List UInt8)
  /-- A field is cut off. -/
  | shortField (expected found : Nat)
  /-- A field lies where the image cannot be read. -/
  | unreadableField
  | smallEntry (size : Nat)
  | headerPastEnd (index offset length : Nat)
  | noNameTable
  | symbolsWithoutNames (index : Nat) (type : String)
  | linkWithoutSymbols (index : Nat) (type : String)
  | symbolSize (name : String)
  | symbolCount (name : String)
  | relocationSize (type : String) (expected : Nat)
  | relativeRelocationSize (expected found : Nat)
  | unknownCompression (type : String)
  | expandedSize (found expected : Nat)
  /-- The image cannot be read at a place. -/
  | unreadable
  /-- An offset that no image in memory can have. -/
  | offsetTooLarge
  /-- An offset that no file can have. -/
  | fileOffsetTooLarge
  /-- An offset beyond the end of the largest file. -/
  | badOffset
  /-- A size that no number of bytes is. -/
  | sizeTooLarge
  /-- A size that leaves no room for anything else. -/
  | bytesTooLarge
  /-- A size that no memory can hold. -/
  | outOfMemory
  /-- A compressed body goes wrong. -/
  | badStream (cause : Deflate.Fault)
deriving DecidableEq, Repr

namespace Problem

def readFailure : String := "[Errno 5] Input/output error"

def message : Problem → String
  | .badMagic => "Magic number does not match"
  | .badClass found => "Invalid EI_CLASS " ++ Text.quotedBytes found
  | .badByteOrder found => "Invalid EI_DATA " ++ Text.quotedBytes found
  | .shortField expected found => s!"expected {expected}, found {found}"
  | .unreadableField => readFailure
  | .smallEntry size => s!"Too small e_shentsize: {size}"
  | .headerPastEnd index offset length =>
    s!"Reading section {index} at offset {offset} past EOF {length}"
  | .noNameTable => "String Table not found"
  | .symbolsWithoutNames index type =>
    s!"SHT_SYMTAB section points at section {index} of type {type}, expected SHT_STRTAB"
  | .linkWithoutSymbols index type =>
    s!"Section points at section {index} of type {type}, expected SHT_SYMTAB/SHT_DYNSYM"
  | .symbolSize name => "Expected entry size of section " ++ Text.quoted name ++ " to be > 0"
  | .symbolCount name =>
    "Expected section size to be a multiple of entry size in section " ++ Text.quoted name
  | .relocationSize type expected => s!"Expected sh_entsize of {type} section to be {expected}"
  | .relativeRelocationSize expected found =>
    s!"Expected RELR entry size to be {expected}, got {found}"
  | .unknownCompression type => "Unknown compression type: " ++ type
  | .expandedSize found expected =>
    s!"Decompressed data is {found} bytes long, should be {expected} bytes long"
  | .unreadable => readFailure
  | .offsetTooLarge => "Python int too large to convert to C ssize_t"
  | .fileOffsetTooLarge => "cannot fit 'int' into an offset-sized integer"
  | .badOffset => "[Errno 22] Invalid argument"
  | .sizeTooLarge => "cannot fit 'int' into an index-sized integer"
  | .bytesTooLarge => "byte string is too large"
  | .outOfMemory => ""
  | .badStream cause => cause.message

inductive Report where
  | malformed
  | unreadable
  | impossible
deriving DecidableEq, Repr

def report : Problem → Report
  | .unreadable | .badOffset => .unreadable
  | .offsetTooLarge | .fileOffsetTooLarge | .sizeTooLarge | .bytesTooLarge | .outOfMemory
  | .badStream _ => .impossible
  | _ => .malformed

end Problem
end Elf
end EntryScan
