import SchemaBindings.Bytes.Utf8
import SchemaBindings.Text.Numeral

/-!
Why a file gives no value. Whatever breaks the form of a document is one fault; the others are bytes
that are no text, and texts that announce a number or a date and give none.
-/

namespace SchemaBindings.Yaml

set_option autoImplicit false

inductive CalendarFault
  | year
  | month
  | day
  | hour
  | minute
  | second
  /-- Seconds between local time and universal time, a day or more. -/
  | offset (seconds : Int)
  deriving DecidableEq, Repr

namespace CalendarFault

def spanText (seconds : Int) : String :=
  let days := seconds / 86400
  let rest := seconds % 86400
  let parts := (if days = 0 then [] else ["days=" ++ toString days])
    ++ (if rest = 0 then [] else ["seconds=" ++ toString rest])
  "datetime.timedelta(" ++ ", ".intercalate parts ++ ")"

def message : CalendarFault → String
  | year => "year 0 is out of range"
  | month => "month must be in 1..12"
  | day => "day is out of range for month"
  | hour => "hour must be in 0..23"
  | minute => "minute must be in 0..59"
  | second => "second must be in 0..59"
  | offset seconds =>
    "offset must be a timedelta strictly between -timedelta(hours=24) and timedelta(hours=24), not "
      ++ spanText seconds ++ "."

end CalendarFault

inductive Error
  | malformed
  | unfinished
  | encoding (e : Utf8.DecodeError)
  | noCharacter (code : Nat)
  | numeral (e : Text.NumeralError)
  | emptyNumber
  | noInteger (text : Text.Codes) (base : Nat)
  | noFloat (text : Text.Codes)
  | tooManyPlaces
  | noBool (text : Text.Codes)
  | noTimestamp
  | mappedTimestamp
  /-- A scalar that is a mapping with itself as its own value. -/
  | endless
  | calendar (fault : CalendarFault)
  deriving DecidableEq, Repr

namespace Error

def codeLimit : Nat := 0x80000000

def message : Error → String
  | malformed | unfinished => "malformed YAML"
  | encoding e => e.message
  | noCharacter code =>
    if code < codeLimit then "chr() arg not in range(0x110000)"
    else "Python int too large to convert to C int"
  | numeral e => e.message
  | emptyNumber => "string index out of range"
  | noInteger text base => Text.noNumberMessage base text
  | noFloat text => "could not convert string to float: " ++ Text.quotedCodes text
  | tooManyPlaces => "int too large to convert to float"
  | noBool text => Text.quotedCodes text
  | noTimestamp => "'NoneType' object has no attribute 'groupdict'"
  | mappedTimestamp => "expected string or bytes-like object, got 'list'"
  | endless => "maximum recursion depth exceeded"
  | calendar fault => fault.message

/-- What is wrong is a value, and not the form of the document or of a value. -/
def isValueFault : Error → Bool
  | encoding _ | numeral _ | noInteger .. | noFloat _ | calendar _ => true
  | noCharacter code => code < codeLimit
  | _ => false

end Error

end SchemaBindings.Yaml
