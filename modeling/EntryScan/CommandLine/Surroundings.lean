import EntryScan.Disk

/-!
# EntryScan.CommandLine.Surroundings

What a run of the command line needs from its surroundings: files, a terminal and a clock. A desk
is such surroundings as plain data.
-/

namespace EntryScan
namespace CommandLine

/-- What a run can do outside the analysis. -/
class Surroundings (m : Type → Type) where
  /-- The bytes of a file. -/
  readFile (path : String) : m (Except Disk.Fault (List UInt8))
  /-- Writes a file anew. -/
  replaceFile (path : String) (text : String) : m (Except Disk.Fault Unit)
  /-- Writes at the end of a file, which is made if there is none. -/
  appendFile (path : String) (text : String) : m (Except Disk.Fault Unit)
  /-- Writes to the terminal. -/
  out (text : String) : m Unit
  /-- Writes to the terminal, beside the results. -/
  err (text : String) : m Unit
  /-- The time, as log lines show it. -/
  now : m String

/-- Surroundings as data. The clock stands still. -/
structure Desk where
  disk : Disk
  time : String
  stdout : String := ""
  stderr : String := ""

namespace Desk

def write (path : String) (put : Disk → String → Disk) : StateM Desk (Except Disk.Fault Unit) := do
  let d ← get
  match d.disk.writable path with
  | .ok (some name) =>
    set { d with disk := put d.disk name }
    return .ok ()
  | .ok none => return .ok ()
  | .error f => return .error f

instance : Surroundings (StateM Desk) where
  readFile path := do return (← get).disk.read path
  replaceFile path text := write path fun d name => d.put name text.toUTF8.toList
  appendFile path text := write path fun d name => d.append name text.toUTF8.toList
  out text := modify fun d => { d with stdout := d.stdout ++ text }
  err text := modify fun d => { d with stderr := d.stderr ++ text }
  now := do return (← get).time

end Desk
end CommandLine
end EntryScan
