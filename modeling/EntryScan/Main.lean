import EntryScan.CommandLine.Run
import Std.Time

/-!
# EntryScan.Main

The program: the command line with the files, the terminal and the clock of the machine.
-/

namespace EntryScan
namespace CommandLine

/-- Why the machine did not open a file. -/
def faultOf (path : String) : IO.Error → Disk.Fault
  | .noFileOrDirectory .. => .missing path
  | .inappropriateType _ code _ => if code = 20 then .notDirectory path else .isDirectory path
  | .permissionDenied _ code _ => .refused code.toNat "Permission denied" path
  | e => .refused 5 e.toString path

def attempt {α : Type} (path : String) (x : IO α) : IO (Except Disk.Fault α) := do
  match ← x.toBaseIO with
  | .ok a => return .ok a
  | .error e => return .error (faultOf path e)

instance : Surroundings IO where
  readFile path := attempt path do
    return (← IO.FS.readBinFile path).toList
  replaceFile path text := attempt path (IO.FS.writeFile path text)
  appendFile path text := attempt path do
    let h ← IO.FS.Handle.mk path .append
    h.putStr text
  out text := do (← IO.getStdout).putStr text
  err text := do (← IO.getStderr).putStr text
  now := do return (← Std.Time.PlainDateTime.now).format "uuuu-MM-dd HH:mm:ss,SSS"

end CommandLine
end EntryScan

/-- Runs the command line; a fault that it does not expect is written as it is. -/
def main (args : List String) : IO UInt32 := do
  let x : EntryScan.CommandLine.Run IO Nat := EntryScan.CommandLine.run {} args
  let (result, _) ← x.run.run {}
  match result with
  | .ok code => return code.toUInt32
  | .error f =>
    (← IO.getStderr).putStr (f.message ++ "\n")
    return 1
