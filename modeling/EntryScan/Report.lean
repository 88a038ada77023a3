import EntryScan.Analysis
import EntryScan.Value.Json

/-!
# EntryScan.Report

The report of an analysis: the parts that a mode selects, the call graph if it is wanted, and
counts of everything that was found.
-/

namespace EntryScan
namespace Report

/-- Whether a mode reports a part. Other modes report no part. -/
def shows (mode part : String) : Bool := mode == part || mode == "all"

/-- The report of an analysis, given the call graph if it is wanted. -/
def document (a : Analysis) (mode : String) (sectionName : Option String)
    (graph : Option CallGraph) : Value :=
  let optional (present : Bool) (key : String) (v : Value) : List (String × Value) :=
    if present then [(key, v)] else []
  let name := sectionName.getD ""
  .object (
    [("arch", .text a.arch.name),
      ("base_address", .text (Address.hexify a.base)),
      ("code_size", .int a.codeSize)] ++
    optional (!name.isEmpty) "section" (.text name) ++
    optional (shows mode "prologues") "prologues" (.list (a.prologues.map (·.toValue))) ++
    optional (shows mode "call-sites") "call_sites" (.list (a.callSites.map (·.toValue))) ++
    optional (shows mode "candidates") "candidates" (.list (a.candidates.map (·.toValue))) ++
    (match graph with
      | some g => [("callgraph", g.toValue)]
      | none => []) ++
    [("summary", .object [
      ("prologues", .int a.prologues.length),
      ("call_sites", .int a.callSites.length),
      ("candidates", .int a.candidates.length)])])

/-- The report of an analysis; the call graph leaves a record. -/
def build (a : Analysis) (mode : String) (sectionName : Option String) (withGraph : Bool) :
    Logged Value := do
  if withGraph then
    let g ← Toolbox.callGraph a.candidates a.callSites false
    return document a mode sectionName (some g)
  else return document a mode sectionName none

end Report
end EntryScan
