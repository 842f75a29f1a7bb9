import SchemaBindings.Settings.Datum
import SchemaBindings.Yaml.Error
import SchemaBindings.Yaml.Source

/-!
Numbers and truth values. The text of a number shows its base at the start, or is one to the base sixty
with a colon between places; underscores within it count for nothing.
-/

namespace SchemaBindings.Yaml

set_option autoImplicit false

open Text

def isMargin (c : Char) : Bool := isBlank c && !Numeral.isSeparator c

def plainDigits (t : Codes) : List Char :=
  t.map fun n =>
    let c := Codes.shownChar n
    match decimalValue? c with
    | some d => d.digitChar
    | none => c

def baseLetter? : Nat → Option Char
  | 2 => some 'b'
  | 8 => some 'o'
  | 16 => some 'x'
  | _ => none

def dropBaseMark (base : Nat) (cs : List Char) : List Char :=
  match cs with
  | '0' :: c :: rest => if baseLetter? base = some c.toLower then rest else cs
  | _ => cs

def isDigitTo (base : Nat) (c : Char) : Bool := (hexValue? c).any (· < base)

def wholeNumber (base : Nat) (t : Codes) : Except Error Int :=
  let (negative, body) := Numeral.splitSign ((plainDigits t).dropWhile isMargin)
  let body := dropBaseMark base body
  let digits := body.takeWhile (isDigitTo base)
  if base = 10 ∧ Numeral.digitLimit < digits.length then
    .error (.numeral (.tooLongToRead digits.length))
  else if digits.isEmpty ∨ !(body.dropWhile (isDigitTo base)).all isMargin then
    .error (.noInteger t base)
  else
    let n : Nat := digits.foldl (fun n c => base * n + (hexValue? c).getD 0) 0
    .ok (if negative then -(n : Int) else n)

/-- The text without underscores, and the sign at its start: true for a minus. -/
def splitNumber (t : Codes) : Except Error (Bool × Codes) :=
  match t.filter (· ≠ '_'.toNat) with
  | [] => .error .emptyNumber
  | c :: rest =>
    .ok (c == '-'.toNat, if c = '-'.toNat ∨ c = '+'.toNat then rest else c :: rest)

def places (t : Codes) : List Codes := pieces (· == ':'.toNat) t

def magnitude (t : Codes) : Except Error Int :=
  let starts (s : String) : Bool := (Codes.ofString s).isPrefixOf t
  if t = .ofString "0" then .ok 0
  else if starts "0b" then wholeNumber 2 (t.drop 2)
  else if starts "0x" then wholeNumber 16 (t.drop 2)
  else if t.isEmpty then .error .emptyNumber
  else if starts "0" then wholeNumber 8 t
  else do
    let parts ← (places t).mapM (wholeNumber 10)
    return parts.foldl (fun n d => 60 * n + d) 0

def intOf (t : Codes) : Except Error Int := do
  let (negative, body) ← splitNumber t
  let n ← magnitude body
  return if negative then -n else n

/-- Digits, a point with more of them, and an exponent, of which all but a digit may be missing. -/
def decimal? (cs : List Char) : Option Float :=
  let number := cs.takeWhile (· != 'e')
  let whole := number.takeWhile (· != '.')
  let fraction := (number.dropWhile (· != '.')).drop 1
  let digits := whole ++ fraction
  let (negative, exponent) := Numeral.splitSign ((cs.dropWhile (· != 'e')).drop 1)
  if digits.isEmpty ∨ !(digits ++ exponent).all Char.isDigit ∨ (cs.contains 'e' ∧ exponent.isEmpty) then
    none
  else
    let e : Int := Numeral.value exponent
    some (Datum.decimal (Numeral.value digits) ((if negative then -e else e) - fraction.length))

def floatNumber (t : Codes) : Except Error Float :=
  let (negative, body) := Numeral.splitSign (trimOf isMargin (plainDigits t))
  let found := match String.ofList body with
    | "inf" | "infinity" => some (1.0 / 0.0)
    | "nan" => some (0.0 / 0.0)
    | _ => decimal? body
  match found with
  | some x => .ok (if negative then -x else x)
  | none => .error (.noFloat t)

/-- No number is as large as this power of two. -/
def floatLimit : Nat := Nat.pow 2 1024

/-- Sums up numbers to the base sixty, the last place first. -/
def sumPlaces (x : Float) (unit : Nat) : List Float → Except Error Float
  | [] => .ok x
  | d :: rest =>
    if floatLimit ≤ unit then .error .tooManyPlaces
    else sumPlaces (x + d * Datum.decimal unit 0) (60 * unit) rest

def floatOf (t : Codes) : Except Error Float := do
  let (negative, body) ← splitNumber t.lower
  let x ← if body = .ofString ".inf" then pure (1.0 / 0.0)
    else if body = .ofString ".nan" then pure (0.0 / 0.0)
    else if body.contains ':'.toNat then do
      sumPlaces 0.0 1 (← (places body).mapM floatNumber).reverse
    else floatNumber body
  return if negative then -x else x

def boolOf (t : Codes) : Except Error Bool :=
  let small := t.lower
  let isOneOf (names : List String) : Bool := (names.map Codes.ofString).contains small
  if isOneOf ["yes", "true", "on"] then .ok true
  else if isOneOf ["no", "false", "off"] then .ok false
  else .error (.noBool small)

end SchemaBindings.Yaml
