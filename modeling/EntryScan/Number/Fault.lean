import EntryScan.Number.Literal
import EntryScan.Text.Quoted

/-!
# EntryScan.Number.Fault

Why a number and a text do not go together, with the wording of each cause.
-/

namespace EntryScan
namespace Number

/-- Why a text is not the number that is asked for, or a number has no text. -/
inductive Fault where
  | literal (text : String) (cause : LiteralFault)
  | outOfRange (text : String)
  /-- A number of too many digits to be written. -/
  | unwritable
deriving DecidableEq, Repr

/-- How a malformed literal is shown: its first 200 characters in quotes. -/
def excerpt (text : String) : String :=
  String.ofList ((Text.quoted text).toList.take 200)

def digitLimitText (details : String) : String :=
  s!"Exceeds the limit ({maxDecimalDigits} digits) for integer string conversion{details}; " ++
    "use sys.set_int_max_str_digits() to increase the limit"

def Fault.message : Fault → String
  | .literal text .malformed => "invalid literal for int() with base 0: " ++ excerpt text
  | .literal _ (.tooManyDigits count) => digitLimitText s!": value has {count} digits"
  | .outOfRange text => "address out of 64-bit range: " ++ text
  | .unwritable => digitLimitText ""

end Number
end EntryScan
