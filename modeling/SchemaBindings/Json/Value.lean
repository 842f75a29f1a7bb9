/-!
JSON values. The members of an object keep the order in which they stand in the text, and a number
written with a point or an exponent keeps its decimal form.
-/

namespace SchemaBindings

set_option autoImplicit false

inductive Json
  | null
  | bool (b : Bool)
  | int (n : Int)
  /-- `mantissa * 10 ^ exponent`, written with a point or an exponent. -/
  | decimal (mantissa exponent : Int)
  | string (s : String)
  | array (items : List Json)
  | object (members : List (String × Json))
  deriving Repr, Inhabited

namespace Json

def member? (key : String) : Json → Option Json
  | .object members => members.reverse.lookup key
  | _ => none

def asString? : Json → Option String
  | .string s => some s
  | _ => none

def asInt? : Json → Option Int
  | .int n => some n
  | _ => none

def asBool? : Json → Option Bool
  | .bool b => some b
  | _ => none

def asArray? : Json → Option (List Json)
  | .array items => some items
  | _ => none

def ofStrings (xs : List String) : Json := .array (xs.map .string)

def ofOption {α : Type} (f : α → Json) : Option α → Json
  | some a => f a
  | none => .null

end Json

end SchemaBindings
