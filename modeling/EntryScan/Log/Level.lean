import EntryScan.Text.Quoted
import EntryScan.Text.Upper

/-!
# EntryScan.Log.Level

Log levels are numbers; some have a name and a colour.
-/

namespace EntryScan
namespace Log

/-- The level of detail that a record needs to be shown. -/
abbrev Level := Int

namespace Level

def debug : Level := 10
def info : Level := 20
def warning : Level := 30

def name (l : Level) : String :=
  let names : List (Int × String) :=
    [(0, "NOTSET"), (10, "DEBUG"), (20, "INFO"), (30, "WARNING"), (40, "ERROR"), (50, "CRITICAL")]
  (names.lookup l).getD (s!"Level {l}")

/-- The terminal code that switches colours off. -/
def plainCode : String := "\x1b[0m"

/-- The terminal code of a level's colour; a level without one has none. -/
def colourCode (l : Level) : String :=
  let codes : List (Int × String) :=
    [(10, "\x1b[36m"), (20, "\x1b[32m"), (30, "\x1b[33m"), (40, "\x1b[31m"),
      (50, "\x1b[31m\x1b[1m")]
  (codes.lookup l).getD ""

def paint (l : Level) (text : String) : String :=
  l.colourCode ++ text ++ plainCode

/-- What a name stands for. Some names stand for something that is no level, and are refused only
when they are used as one. -/
inductive Named where
  | level (l : Level)
  /-- A text, which could be the name of a level and is not. -/
  | text (content : String)
  /-- Anything else, as messages show it. -/
  | other (shown : String)
deriving DecidableEq, Repr

/-- The layouts of lines in three styles, as messages show them. -/
def styleTable : String :=
  "\x7b'%': (<class 'logging.PercentStyle'>, '%(levelname)s:%(name)s:%(message)s'), " ++
  "'\x7b': (<class 'logging.StrFormatStyle'>, '\x7blevelname\x7d:\x7bname\x7d:\x7bmessage\x7d'), " ++
  "'$': (<class 'logging.StringTemplateStyle'>, " ++
  "'$\x7blevelname\x7d:$\x7bname\x7d:$\x7bmessage\x7d')\x7d"

def levelNames : List (String × Level) :=
  [("NOTSET", 0), ("DEBUG", 10), ("INFO", 20), ("WARNING", 30), ("WARN", 30), ("ERROR", 40),
    ("CRITICAL", 50), ("FATAL", 50)]

def named : List (String × Named) :=
  levelNames.map (fun (name, l) => (name, .level l)) ++
    [("BASIC_FORMAT", .text "%(levelname)s:%(name)s:%(message)s"), ("_STYLES", .other styleTable)]

/-- What a name stands for, without regard to case. An unknown name is given back in capitals. -/
def lookup (text : String) : Except String Named :=
  match named.lookup (Text.upper text) with
  | some n => .ok n
  | none => .error (Text.upper text)

end Level
end Log
end EntryScan
