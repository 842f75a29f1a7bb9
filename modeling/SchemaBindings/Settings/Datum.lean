import SchemaBindings.Json.Value
import SchemaBindings.Text.Quoted

/-!
Values of a settings document, before anything is known of what they should be.
-/

namespace SchemaBindings

set_option autoImplicit false

inductive Datum
  | null
  | bool (b : Bool)
  | int (n : Int)
  | float (x : Float)
  | string (s : String)
  /-- A text with surrogates. -/
  | brokenString (t : Text.Codes)
  | bytes (b : ByteArray)
  | date
  | dateTime
  | list (items : List Datum)
  | pair (first second : Datum)
  | set (items : List Datum)
  /-- The entries in the order in which their keys first appear. -/
  | map (entries : List (Datum × Datum))

namespace Datum

def lookup? (entries : List (Datum × Datum)) (key : String) : Option Datum :=
  (entries.find? fun e => match e.1 with
    | .string k => k == key
    | _ => false).map Prod.snd

def isEmpty : Datum → Bool
  | null => true
  | bool b => !b
  | int n => n == 0
  | float x => x == 0.0
  | string s => s.isEmpty
  | bytes b => b.isEmpty
  | list items | set items => items.isEmpty
  | map entries => entries.isEmpty
  | brokenString _ | date | dateTime | pair .. => false

def typeName : Datum → String
  | null => "NoneType"
  | bool _ => "bool"
  | int _ => "int"
  | float _ => "float"
  | string _ | brokenString _ => "str"
  | bytes _ => "bytes"
  | date => "datetime.date"
  | dateTime => "datetime.datetime"
  | list _ => "list"
  | pair .. => "tuple"
  | set _ => "set"
  | map _ => "dict"

def decimal (mantissa exponent : Int) : Float :=
  let m := mantissa.natAbs
  let size := (Nat.log2 m : Int) * 3 / 10 + exponent
  let x :=
    if m = 0 ∨ size < -400 then 0.0
    else if 400 < size then 1.0 / 0.0
    else Float.ofScientific m (exponent < 0) exponent.natAbs
  if mantissa < 0 then -x else x

mutual

def ofJson : Json → Datum
  | .null => null
  | .bool b => bool b
  | .int n => int n
  | .decimal m e => float (decimal m e)
  | .string s => string s
  | .array items => list (ofItems items)
  | .object members => map (ofMembers members)

def ofItems : List Json → List Datum
  | [] => []
  | j :: rest => ofJson j :: ofItems rest

def ofMembers : List (String × Json) → List (Datum × Datum)
  | [] => []
  | (k, j) :: rest => (string k, ofJson j) :: ofMembers rest

end

end Datum

end SchemaBindings
