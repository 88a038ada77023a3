import EntryScan.CallGraph
import EntryScan.Candidate.Merge
import EntryScan.Registry

/-!
# EntryScan.Analysis

The analysis of a region of code: both scans over one decoder, and the candidates they speak for.
The single scans are available on their own.
-/

namespace EntryScan

/-- Everything that an analysis of a region found. -/
structure Analysis where
  arch : Arch
  base : Int
  codeSize : Nat
  prologues : List Prologue
  callSites : List CallSite
  candidates : List Candidate
deriving DecidableEq, Repr

namespace Analysis

def toValue (a : Analysis) : Value :=
  .object [
    ("arch", .text a.arch.name),
    ("base_address", .text (Address.hexify a.base)),
    ("code_size", .int a.codeSize),
    ("prologues", .list (a.prologues.map (·.toValue))),
    ("call_sites", .list (a.callSites.map (·.toValue))),
    ("candidates", .list (a.candidates.map (·.toValue)))]

end Analysis

/-- What an operation works with: settings and registered detectors. -/
structure Toolbox where
  config : Config := {}
  registry : Registry := {}

/-- The default tools with a decoder of one's own. -/
abbrev Decoder.tools (dec : Decoder) : Toolbox := { config := dec.config }

namespace Toolbox

def detectPrologues (t : Toolbox) (code : List UInt8) (base : Int) (tag : String) :
    Logged (List Prologue) := do
  let d ← Logged.lift (t.registry.create .prologues tag none)
  d.scanPrologues t.config code base

def detectCallSites (t : Toolbox) (code : List UInt8) (base : Int) (tag : String) :
    Logged (List CallSite) := do
  let d ← Logged.lift (t.registry.create .callSites tag none)
  d.scanCallSites t.config code base

/-- The candidates that prologues and edges speak for, with the record of the merge. -/
def merge (t : Toolbox) (prologues : List Prologue) (edges : List CallSite) :
    Logged (List Candidate) := do
  let candidates := Candidate.merge t.config prologues edges
  Logged.log (Log.ours "merger") .debug s!"merged {candidates.length} candidate(s)"
  return candidates

/-- The analysis of a region. With `inRegionOnly`, edges that leave the region are reported but do
not count as evidence. -/
def analyze (t : Toolbox) (code : List UInt8) (base : Int) (tag : String)
    (inRegionOnly : Option Bool) : Logged Analysis := do
  let arch ← Logged.lift (Arch.parse tag)
  let decoder ← Logged.lift (t.registry.decoder arch.name)
  let prologueDetector ← Logged.lift (t.registry.create .prologues arch.name (some decoder))
  let prologues ← prologueDetector.scanPrologues t.config code base
  let callSiteDetector ← Logged.lift (t.registry.create .callSites arch.name (some decoder))
  let callSites ← callSiteDetector.scanCallSites t.config code base
  let edges :=
    if inRegionOnly.getD t.config.inRegionOnly then
      callSites.filter (·.staysIn base code.length)
    else callSites
  let candidates ← t.merge prologues edges
  let place := Number.hex base
  Logged.log (Log.ours "detector_factory") .info
    (s!"{arch.name}: {prologues.length} prologue(s), {callSites.length} call site(s), " ++
      s!"{candidates.length} candidate(s) in {code.length} bytes at {place}")
  return ⟨arch, base, code.length, prologues, callSites, candidates⟩

/-- The call graph of candidates and call sites, with the record of its size. -/
def callGraph (candidates : List Candidate) (edges : List CallSite) (includeJumps : Bool) :
    Logged CallGraph := do
  let g := CallGraph.build candidates edges includeJumps
  Logged.log (Log.ours "callgraph") .debug
    s!"call graph: {g.nodes.length} node(s), {g.linkList.length} edge(s)"
  return g

/-- The code section of an image, with the record of its size. -/
def loadSection (t : Toolbox) (img : Elf.Image) (name : Option String) :
    Logged Elf.CodeSection := do
  let s ← Logged.lift ((Elf.load t.config img name).mapError .container)
  let place := Number.hex s.address
  Logged.log (Log.ours "elf_loader") .info
    s!"Loaded {s.name}: {s.data.length} bytes at {place} ({s.arch.name})"
  return s

def imagePrologues (t : Toolbox) (img : Elf.Image) (name : Option String) :
    Logged (List Prologue) := do
  let s ← t.loadSection img name
  t.detectPrologues s.data s.address s.arch.name

def analyzeImage (t : Toolbox) (img : Elf.Image) (name : Option String)
    (inRegionOnly : Option Bool) : Logged Analysis := do
  let s ← t.loadSection img name
  t.analyze s.data s.address s.arch.name inRegionOnly

def analyzeFile (t : Toolbox) (disk : Disk) (path : String) (name : Option String)
    (inRegionOnly : Option Bool) : Logged Analysis := do
  let bytes ← Logged.lift ((disk.read path).mapError .file)
  t.analyzeImage { bytes := bytes, onDisk := true } name inRegionOnly

end Toolbox
end EntryScan
