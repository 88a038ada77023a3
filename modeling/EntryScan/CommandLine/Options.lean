import EntryScan.Arch
import EntryScan.Config
import EntryScan.Text.Digit

/-!
# EntryScan.CommandLine.Options

The options of the command line and how arguments are read. Long options may be cut short as long
as one option is meant, a value may follow its option as the next argument or after `=`, and `--`
ends the options. The first thing that is wrong is reported.
-/

namespace EntryScan
namespace CommandLine

inductive Opt where
  | help
  | mode
  | sectionName
  | inSectionOnly
  | callgraph
  | raw
  | arch
  | baseAddress
  | output
  | pretty
  | logLevel
  | logFile
deriving DecidableEq, Repr

namespace Opt

/-- Every option, in the order in which messages list them. -/
def all : List Opt :=
  [.help, .mode, .sectionName, .inSectionOnly, .callgraph, .raw, .arch, .baseAddress, .output,
    .pretty, .logLevel, .logFile]

def spellings : Opt → List String
  | .help => ["-h", "--help"]
  | .mode => ["--mode", "-m"]
  | .sectionName => ["--section", "-s"]
  | .inSectionOnly => ["--in-section-only"]
  | .callgraph => ["--callgraph"]
  | .raw => ["--raw"]
  | .arch => ["--arch", "-a"]
  | .baseAddress => ["--base-address", "-b"]
  | .output => ["--output", "-o"]
  | .pretty => ["--pretty"]
  | .logLevel => ["--log-level"]
  | .logFile => ["--log-file"]

def takesValue : Opt → Bool
  | .help | .inSectionOnly | .callgraph | .raw | .pretty => false
  | _ => true

/-- The values that an option takes, if not all. -/
def choices : Opt → Option (List String)
  | .mode => some ["prologues", "call-sites", "candidates", "all"]
  | .arch => some Arch.tags
  | .logLevel => some ["DEBUG", "INFO", "WARNING", "ERROR"]
  | _ => none

def label (o : Opt) : String := "/".intercalate o.spellings

def table : List (String × Opt) :=
  all.flatMap fun o => o.spellings.map fun s => (s, o)

end Opt

inductive Misuse where
  | ambiguous (argument : String) (spellings : List String)
  | invalidChoice (option : Opt) (value : String)
  | expectedValue (option : Opt)
  | ignoredValue (option : Opt) (value : String)
  | unrecognized (arguments : List String)
  | noInput
  | rawWithoutArch
  | badBase (text : String)
deriving DecidableEq, Repr

namespace Misuse

def message : Misuse → String
  | .ambiguous argument spellings =>
    "ambiguous option: " ++ argument ++ " could match " ++ ", ".intercalate spellings
  | .invalidChoice option value =>
    let choices := ", ".intercalate ((option.choices.getD []).map Text.quoted)
    "argument " ++ option.label ++ ": invalid choice: " ++ Text.quoted value ++
      " (choose from " ++ choices ++ ")"
  | .expectedValue option => "argument " ++ option.label ++ ": expected one argument"
  | .ignoredValue option value =>
    "argument " ++ option.label ++ ": ignored explicit argument " ++ Text.quoted value
  | .unrecognized arguments => "unrecognized arguments: " ++ " ".intercalate arguments
  | .noInput => "the following arguments are required: binary_path"
  | .rawWithoutArch => "--arch is required with --raw"
  | .badBase text => "invalid --base-address: " ++ text

end Misuse

inductive Word where
  /-- An option, whether it is spelled with one letter, and the value that is part of the
  argument. -/
  | option (o : Opt) (short : Bool) (value : Option String)
  /-- An option that does not exist. -/
  | unknown
  | argument
deriving DecidableEq, Repr

def splitEquals (cs : List Char) : List Char × Option (List Char) :=
  match cs.dropWhile (· ≠ '=') with
  | _ :: value => (cs.takeWhile (· ≠ '='), some value)
  | [] => (cs, none)

/-- A negative decimal number, which counts as an argument and not as an option. -/
def isNegativeNumber (cs : List Char) : Bool :=
  let isDigit (c : Char) : Bool := (Text.decimalDigit? c).isSome
  -- one line break at the end is passed over
  let cs := if cs.getLast? = some '\n' then cs.dropLast else cs
  match cs with
  | '-' :: body =>
    match body.takeWhile isDigit, body.dropWhile isDigit with
    | _ :: _, [] => true
    | _, '.' :: fraction => !fraction.isEmpty && fraction.all isDigit
    | _, _ => false
  | _ => false

/-- The options that an argument which is no full spelling may mean. -/
def meanings (cs : List Char) : List (String × Opt × Option String) :=
  match cs with
  | '-' :: '-' :: _ =>
    let (start, value) := splitEquals cs
    (Opt.table.filter fun (s, _) => start.isPrefixOf s.toList).map fun (s, o) =>
      (s, o, value.map String.ofList)
  | _ =>
    Opt.table.filterMap fun (s, o) =>
      if s.toList = cs.take 2 then some (s, o, some (String.ofList (cs.drop 2)))
      else if cs.isPrefixOf s.toList then some (s, o, none)
      else none

def isShort (cs : List Char) : Bool := cs.length = 2

/-- What an argument is, on its own. -/
def classify (arg : String) : Except Misuse Word :=
  let cs := arg.toList
  let (start, value) := splitEquals cs
  if cs.head? ≠ some '-' then .ok .argument
  else
    match Opt.table.lookup arg with
    | some o => .ok (.option o (isShort cs) none)
    | none =>
      if cs.length = 1 then .ok .argument
      else
        match value, Opt.table.lookup (String.ofList start) with
        | some v, some o => .ok (.option o (isShort start) (some (String.ofList v)))
        | _, _ =>
          match meanings cs with
          | [(s, o, v)] => .ok (.option o (isShort s.toList) v)
          | [] =>
            if isNegativeNumber cs || cs.contains ' ' then .ok .argument else .ok .unknown
          | several => .error (.ambiguous arg (several.map (·.1)))

/-- The arguments before the first `--`, and those after it if there is one. -/
def splitDivider : List String → List String × Option (List String)
  | [] => ([], none)
  | arg :: args =>
    if arg = "--" then ([], some args)
    else
      let (before, after) := splitDivider args
      (arg :: before, after)

structure Options where
  path : Option String := none
  mode : String := "candidates"
  sectionName : String
  inSectionOnly : Bool
  callgraph : Bool := false
  raw : Bool := false
  arch : Option String := none
  baseAddress : String := "0"
  output : Option String := none
  pretty : Bool := false
  /-- None when the value was left open. -/
  logLevel : Option String := some "WARNING"
  logFile : Option String := none
  help : Bool := false
  /-- Arguments that nothing took. -/
  extras : List String := []
deriving DecidableEq, Repr

namespace Options

/-- The options without any argument. -/
def defaults (c : Config) : Options where
  sectionName := c.defaultSection
  inSectionOnly := c.inRegionOnly

/-- Sets an option that takes no value. -/
def setFlag (o : Opt) (opts : Options) : Options :=
  match o with
  | .help => { opts with help := true }
  | .inSectionOnly => { opts with inSectionOnly := true }
  | .callgraph => { opts with callgraph := true }
  | .raw => { opts with raw := true }
  | .pretty => { opts with pretty := true }
  | _ => opts

/-- Leaves the value of an option open. An open address is shown as an empty list. -/
def leaveOpen (o : Opt) (opts : Options) : Options :=
  match o with
  | .mode => { opts with mode := "" }
  | .sectionName => { opts with sectionName := "" }
  | .arch => { opts with arch := none }
  | .baseAddress => { opts with baseAddress := "[]" }
  | .output => { opts with output := none }
  | .logLevel => { opts with logLevel := none }
  | .logFile => { opts with logFile := none }
  | _ => opts

/-- Sets an option that takes a value, which must be one of its choices. The value `--` leaves it
open. -/
def setValue (o : Opt) (value : String) (opts : Options) : Except Misuse Options :=
  if value = "--" then .ok (opts.leaveOpen o)
  else if !((o.choices.map (·.contains value)).getD true) then .error (.invalidChoice o value)
  else
    .ok <| match o with
    | .mode => { opts with mode := value }
    | .sectionName => { opts with sectionName := value }
    | .arch => { opts with arch := some value }
    | .baseAddress => { opts with baseAddress := value }
    | .output => { opts with output := some value }
    | .logLevel => { opts with logLevel := some value }
    | .logFile => { opts with logFile := some value }
    | _ => opts

/-- Adds an argument that nothing takes. -/
def addExtra (arg : String) (opts : Options) : Options :=
  { opts with extras := opts.extras ++ [arg] }

/-- The last option of the letters after an option that takes no value, with its value if that is
part of the argument too. -/
def cluster (o : Opt) : List Char → Except Misuse (Opt × Option String)
  | [] => .error (.ignoredValue o "")
  | c :: cs =>
    match Opt.table.lookup (String.ofList ['-', c]) with
    | none => .error (.ignoredValue o (String.ofList (c :: cs)))
    | some next =>
      if cs.isEmpty then .ok (next, none)
      else if next.takesValue then .ok (next, some (String.ofList cs))
      else cluster next cs

/-- Whether a plain argument comes first. -/
def startsPlain : List (String × Word) → Bool
  | (_, .argument) :: _ => true
  | _ => false

/-- Reads classified arguments, and says whether the last of them was taken as the input, which is
the first plain argument. -/
def consume (opts : Options) (atInput : Bool) :
    List (String × Word) → Except Misuse (Options × Bool)
  | [] => .ok (opts, atInput)
  | (_, .option o short (some value)) :: ws =>
    if o.takesValue then do consume (← opts.setValue o value) false ws
    else if !short then .error (.ignoredValue o value)
    else do
      -- of the options of one letter, only the one for help takes no value; it ends the reading
      let (last, attached) ← cluster o value.toList
      if last.takesValue && attached.isNone && !startsPlain ws then .error (.expectedValue last)
      else .ok (opts.setFlag o, false)
  | (_, .option o _ none) :: ws =>
    if o.takesValue then
      match ws with
      | (value, .argument) :: rest => do consume (← opts.setValue o value) false rest
      | _ => .error (.expectedValue o)
    else if o = .help then .ok (opts.setFlag o, false)
    else consume (opts.setFlag o) false ws
  | (arg, .unknown) :: ws => consume (opts.addExtra arg) false ws
  | (arg, .argument) :: ws =>
    if opts.path.isSome then consume (opts.addExtra arg) false ws
    else consume { opts with path := some arg } true ws

/-- Adds what follows a divider. The divider itself is passed over next to the input, before or
after it; anywhere else nothing takes it. -/
def consumePlain (opts : Options) (atInput : Bool) (args : List String) : Options :=
  match opts.path, args with
  | none, path :: rest => { opts with path := some path, extras := opts.extras ++ rest }
  | none, [] => opts.addExtra "--"
  | some _, _ =>
    let args := if atInput then args else "--" :: args
    { opts with extras := opts.extras ++ args }

/-- Reads the arguments of a command line. -/
def parse (c : Config) (argv : List String) : Except Misuse Options := do
  let (before, after) := splitDivider argv
  let words ← before.mapM fun arg => return (arg, ← classify arg)
  let (opts, atInput) ← (defaults c).consume false words
  let opts := match after with
    | some args => opts.consumePlain atInput args
    | none => opts
  if opts.help then return opts
  if opts.path.isNone then .error .noInput
  if !opts.extras.isEmpty then .error (.unrecognized opts.extras)
  return opts

end Options
end CommandLine
end EntryScan
