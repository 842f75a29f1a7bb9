import SchemaBindings.Text.Quoted
import SchemaBindings.Text.Trim

/-!
Whole numbers in decimal notation. Digits of every script are read, and plain digits are written;
neither is done beyond `digitLimit` digits, so both directions can fail.
-/

namespace SchemaBindings.Text

set_option autoImplicit false

inductive NumeralError
  /-- A text with this many digits, leading zeros counted. -/
  | tooLongToRead (digits : Nat)
  | tooLongToWrite
  | separated (text : String)
  deriving DecidableEq, Repr

namespace Numeral

def digitLimit : Nat := 4300

def value (digits : List Char) : Nat :=
  digits.foldl (fun n c => 10 * n + (decimalValue? c).getD 0) 0

def readDigits (digits : List Char) : Except NumeralError Nat :=
  if digitLimit < digits.length then .error (.tooLongToRead digits.length) else .ok (value digits)

def splitSign : List Char → Bool × List Char
  | '-' :: rest => (true, rest)
  | '+' :: rest => (false, rest)
  | rest => (false, rest)

/-- The information separators of ASCII: blanks, but not such as may stand around a number. -/
def isSeparator (c : Char) : Bool := 0x1c ≤ c.toNat && c.toNat ≤ 0x1f

/-- Reads a whole number with an optional sign between blanks; `none` for any other text. -/
def read? (cs : List Char) : Except NumeralError (Option Int) :=
  let (negative, body) := splitSign (cs.dropWhile isBlank)
  let digits := body.takeWhile isDecimal
  let after := body.dropWhile isDecimal
  if digits.isEmpty || !after.all isBlank then .ok none
  else if (cs.takeWhile isBlank).any isSeparator then .error (.separated (String.ofList cs))
  else do
    let n ← readDigits digits
    if after.any isSeparator then throw (.separated (String.ofList cs))
    return some (if negative then -(n : Int) else n)

def write (n : Int) : Except NumeralError String :=
  if n.natAbs < Nat.pow 10 digitLimit then .ok (toString n) else .error .tooLongToWrite

end Numeral

def noNumberMessage (base : Nat) (t : Codes) : String :=
  "invalid literal for int() with base " ++ toString base ++ ": "
    ++ String.ofList ((quotedCodes t).toList.take 200)

def NumeralError.message : NumeralError → String
  | .tooLongToRead digits =>
    "Exceeds the limit (4300 digits) for integer string conversion: value has "
      ++ toString digits ++ " digits; use sys.set_int_max_str_digits() to increase the limit"
  | .tooLongToWrite =>
    "Exceeds the limit (4300 digits) for integer string conversion; "
      ++ "use sys.set_int_max_str_digits() to increase the limit"
  | .separated text => noNumberMessage 10 (.ofString text)

end SchemaBindings.Text
