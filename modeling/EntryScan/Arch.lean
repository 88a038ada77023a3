import EntryScan.Text.Blank

/-!
# EntryScan.Arch

The two architectures whose code is analysed, the tags that name them, and the registers a
callee must preserve on each.
-/

namespace EntryScan

inductive Arch where
  | amd64
  | arm64
deriving DecidableEq, Repr

namespace Arch

def name : Arch → String
  | .amd64 => "amd64"
  | .arm64 => "arm64"

def all : List Arch := [.amd64, .arm64]

/-- The names that messages list as supported. -/
def supported : List String := all.map name

def aliases : List (String × Arch) :=
  [("amd64", .amd64), ("x86_64", .amd64), ("x86-64", .amd64), ("x64", .amd64),
    ("arm64", .arm64), ("aarch64", .arm64)]

def tags : List String :=
  (aliases.map (·.1)).mergeSort fun a b => decide (a ≤ b)

/-- The architecture that a tag names, without regard to case and to blanks around it. -/
def parse? (tag : String) : Option Arch :=
  aliases.lookup (Text.lowerAscii (String.ofList (Text.trim Text.isBlank tag.toList)))

/-- The registers that a callee preserves, by the standard calling convention. -/
def calleeSaved : Arch → List String
  | .amd64 => ["rbx", "rbp", "r12", "r13", "r14", "r15"]
  | .arm64 => (List.range' 19 12).map fun n => "x" ++ toString n

end Arch

/-- Whether a register, in either case, is one of the preserved ones. -/
def isPreserved (preserved : List String) (register : String) : Bool :=
  preserved.contains (Text.lowerAscii register)

end EntryScan
