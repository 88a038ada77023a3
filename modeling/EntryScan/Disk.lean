import EntryScan.Text.Quoted

/-!
# EntryScan.Disk

The files that a run sees: those of the directory it works in, by name, and the directories around
it. Paths are followed part by part. Every part but the last must be a directory, and the first
part that cannot be followed decides what is reported.
-/

namespace EntryScan

/-- The files of the directory that a run works in. -/
structure Disk where
  files : List (String × List UInt8)
deriving DecidableEq, Repr

namespace Disk

/-! ## Faults -/

inductive Fault where
  | missing (path : String)
  | isDirectory (path : String)
  | notDirectory (path : String)
  | nameTooLong (path : String)
  /-- A path with a zero character, which no system call takes. -/
  | zeroCharacter
  /-- Anything else, with the system's number and wording. -/
  | refused (number : Nat) (reason path : String)
deriving DecidableEq, Repr

namespace Fault

def message : Fault → String
  | .missing path => "[Errno 2] No such file or directory: " ++ Text.quoted path
  | .isDirectory path => "[Errno 21] Is a directory: " ++ Text.quoted path
  | .notDirectory path => "[Errno 20] Not a directory: " ++ Text.quoted path
  | .nameTooLong path => "[Errno 36] File name too long: " ++ Text.quoted path
  | .zeroCharacter => "embedded null byte"
  | .refused number reason path => s!"[Errno {number}] {reason}: " ++ Text.quoted path

/-- Whether the system refused, and not the caller. -/
def isOfSystem (f : Fault) : Bool := f ≠ .zeroCharacter

end Fault

/-! ## Paths -/

def splitSlashes : List Char → List (List Char)
  | [] => [[]]
  | '/' :: cs => [] :: splitSlashes cs
  | c :: cs =>
    match splitSlashes cs with
    | [] => [[c]]
    | p :: ps => (c :: p) :: ps

/-- The parts of a path; slashes side by side count as one. -/
def parts (path : String) : List String :=
  ((splitSlashes path.toList).filter (!·.isEmpty)).map String.ofList

def isAbsolute (path : String) : Bool := path.toList.head? = some '/'

/-- Whether a path asks for a directory by a slash at its end. -/
def endsInSlash (path : String) : Bool := path.toList.getLast? = some '/'

/-- Adds a part to a plain path, whose parts are kept last first: `.` adds nothing, and `..` takes
the part before it away, if there is one to take. -/
def addPlain (absolute : Bool) (taken : List String) (part : String) : List String :=
  if part = "." then taken
  else if part = ".." then
    match taken with
    | [] => if absolute then [] else [".."]
    | last :: rest => if last = ".." then ".." :: taken else rest
  else part :: taken

/-- The path without detours, found without a look at the directories. -/
def plainPath (path : String) : String :=
  let absolute := isAbsolute path
  let plain := "/".intercalate ((parts path).foldl (addPlain absolute) []).reverse
  if absolute then "/" ++ plain
  else if plain.isEmpty then "."
  else plain

/-! ## Directories -/

inductive Directory where
  /-- The one that a run works in. -/
  | here
  /-- One that it lies in. -/
  | above
  | top
  /-- One that every system has at the top. -/
  | standard (name : String)
deriving DecidableEq, Repr

/-- The directories that every system has at the top. -/
def standardNames : List String :=
  ["bin", "boot", "dev", "etc", "home", "lib", "lib64", "media", "mnt", "opt", "proc", "root",
    "run", "sbin", "srv", "sys", "tmp", "usr", "var"]

/-- What a part of a path leads to. -/
inductive Entry where
  | directory (dir : Directory)
  | file (name : String)
  /-- The file that is always empty. -/
  | drain
  | nothing
deriving DecidableEq, Repr

def partLimit : Nat := 255

def pathLimit : Nat := 4095

def entry (d : Disk) (dir : Directory) (part : String) : Entry :=
  match dir, part with
  | dir, "." => .directory dir
  | .here, ".." => .directory .above
  | .above, ".." => .directory .above
  | _, ".." => .directory .top
  | .here, name => if (d.files.lookup name).isSome then .file name else .nothing
  | .top, name => if standardNames.contains name then .directory (.standard name) else .nothing
  | .standard "dev", "null" => .drain
  | _, _ => .nothing

/-- Follows parts that must be directories. The path is for what is reported. -/
def follow (d : Disk) (path : String) (dir : Directory) : List String → Except Fault Directory
  | [] => .ok dir
  | part :: ps =>
    if partLimit < part.utf8ByteSize then .error (.nameTooLong path)
    else
      match d.entry dir part with
      | .directory next => d.follow path next ps
      | .nothing => .error (.missing path)
      | _ => .error (.notDirectory path)

/-- The directory that a path leads into, and its last part. -/
def locate (d : Disk) (path : String) : Except Fault (Directory × String) := do
  if path.toList.contains (Char.ofNat 0) then .error .zeroCharacter
  else if path.isEmpty then .error (.missing path)
  else if pathLimit < path.utf8ByteSize then .error (.nameTooLong path)
  else
    let ps := parts path
    let dir ← d.follow path (if isAbsolute path then .top else .here) ps.dropLast
    return (dir, ps.getLast?.getD ".")

def isStep (part : String) : Bool := part = "." || part = ".."

/-! ## Files -/

def read (d : Disk) (path : String) : Except Fault (List UInt8) := do
  let (dir, last) ← d.locate path
  if partLimit < last.utf8ByteSize then .error (.nameTooLong path)
  else
    match d.entry dir last with
    | .directory _ => .error (.isDirectory path)
    | .nothing => .error (.missing path)
    | .drain => if endsInSlash path then .error (.notDirectory path) else .ok []
    | .file name =>
      if endsInSlash path then .error (.notDirectory path)
      else .ok ((d.files.lookup name).getD [])

/-- The name of the file that is written at a path; none when it is not one of this disk. -/
def writable (d : Disk) (path : String) : Except Fault (Option String) := do
  let (dir, last) ← d.locate path
  if endsInSlash path && !isStep last then .error (.isDirectory path)
  else if partLimit < last.utf8ByteSize then .error (.nameTooLong path)
  else
    match d.entry dir last with
    | .directory _ => .error (.isDirectory path)
    | .drain => .ok none
    | .file name => .ok (some name)
    | .nothing => .ok (if dir = .here then some last else none)

def put (d : Disk) (name : String) (bytes : List UInt8) : Disk :=
  if (d.files.lookup name).isSome then
    ⟨d.files.map fun (n, bs) => if n = name then (n, bytes) else (n, bs)⟩
  else ⟨d.files ++ [(name, bytes)]⟩

/-- The files after a file got new bytes at its end; a missing file is made. -/
def append (d : Disk) (name : String) (bytes : List UInt8) : Disk :=
  d.put name ((d.files.lookup name).getD [] ++ bytes)

/-- The files of `after` that `d` does not have with the same bytes. -/
def changes (d after : Disk) : List (String × List UInt8) :=
  after.files.filter fun (n, bs) => d.files.lookup n ≠ some bs

end Disk
end EntryScan
