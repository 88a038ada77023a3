import EntryScan.Decoder
import EntryScan.Number.Hex
import EntryScan.Value.Basic

/-!
# EntryScan.Config

The settings of an analysis. They are read when the work is done, so that a change holds for
everything that follows it.
-/

namespace EntryScan

/-- The settings of an analysis. -/
structure Config where
  /-- The most bytes of one x86-64 instruction. -/
  amd64Window : Nat := 15
  /-- The bytes that a sweep over A64 code asks for at a position. -/
  arm64Window : Nat := 4
  /-- Byte sequences that a sweep over x86-64 code passes over without notice. -/
  markers : List (List UInt8) := [[0xf3, 0x0f, 0x1e, 0xfa], [0xf3, 0x0f, 0x1e, 0xfb]]
  /-- The x86-64 registers listed as preserved by a callee. -/
  amd64Preserved : List String := ["rbx", "rbp", "r12", "r13", "r14", "r15"]
  /-- The prologue kinds that alone give high confidence. -/
  highTrust : List String := ["classic", "stp-frame-pair"]
  /-- How far each prologue kind is trusted; kinds not listed count as zero. -/
  trust : List (String × Int) :=
    [("classic", 3), ("stp-frame-pair", 3), ("str-lr-preindex", 2), ("stp-only", 2),
      ("no-frame-pointer", 1), ("lea-based", 1), ("sub-sp", 1), ("push-only", 0)]
  /-- The confidence of a resolved call. -/
  callConfidence : String := "high"
  /-- The confidence of a resolved jump. -/
  jumpConfidence : String := "medium"
  /-- The confidence of a resolved conditional jump. -/
  conditionalConfidence : String := "low"
  /-- The section that is analysed when none is named. -/
  defaultSection : String := ".text"
  /-- Whether edges that leave the region count as evidence, when a caller does not say. -/
  inRegionOnly : Bool := false
  /-- What single instructions are decoded with. -/
  decoder : Decoder := .standard

/-- The default settings with a decoder of one's own. -/
abbrev Decoder.config (dec : Decoder) : Config := { decoder := dec }

namespace Config

/-- Texts as a set is listed: in order, each once. -/
def asSet (items : List String) : List String :=
  (items.mergeSort fun a b => decide (a ≤ b)).eraseDups

def hexBytes (bs : List UInt8) : String :=
  String.ofList (bs.flatMap fun b => Text.hexPadded 2 b.toNat)

def summary (c : Config) : Value :=
  .object [
    ("amd64_max_insn_len", .int c.amd64Window),
    ("arm64_insn_len", .int c.arm64Window),
    ("cet_markers", .texts (c.markers.map hexBytes)),
    ("amd64_callee_saved", .texts (asSet c.amd64Preserved)),
    ("high_trust_prologues", .texts (asSet c.highTrust)),
    ("call_confidence", .text c.callConfidence),
    ("jump_confidence", .text c.jumpConfidence),
    ("conditional_jump_confidence", .text c.conditionalConfidence),
    ("default_section", .text c.defaultSection),
    ("in_region_only", .bool c.inRegionOnly)]

end Config
end EntryScan
