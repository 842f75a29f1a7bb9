import SchemaBindings.Text.Trim
import SchemaBindings.Yaml.Timestamp

/-!
Tags, which say what kind of value a node is, and the tags of scalars that have none: those of a plain
scalar follow from the form of its text.
-/

namespace SchemaBindings.Yaml

set_option autoImplicit false

inductive Tag
  | null
  | bool
  | int
  | float
  | timestamp
  | binary
  | string
  | sequence
  | orderedMap
  | pairs
  | set
  | mapping
  | merge
  /-- The key for the value itself. -/
  | value
  | other (name : String)
  deriving DecidableEq, Repr

namespace Tag

def common : String := "tag:yaml.org,2002:"

def names : List (String × Tag) :=
  [("null", null), ("bool", bool), ("int", int), ("float", float), ("timestamp", timestamp),
    ("binary", binary), ("str", string), ("seq", sequence), ("omap", orderedMap), ("pairs", pairs),
    ("set", set), ("map", mapping), ("merge", merge), ("value", value)]

def ofName (name : String) : Tag :=
  ((names.map fun (ending, t) => (common ++ ending, t)).lookup name).getD (other name)

end Tag

namespace Plain

def dropSign : List Char → List Char
  | '+' :: rest => rest
  | '-' :: rest => rest
  | cs => cs

def isDigitOrJoint (c : Char) : Bool := c.isDigit || c == '_'

def isJoined : List Char → Bool
  | c :: rest => c.isDigit && rest.all isDigitOrJoint
  | [] => false

/-- At most 59, with one or two digits. -/
def isSixtieth : List Char → Bool
  | [c] => c.isDigit
  | [c, d] => '0' ≤ c && c ≤ '5' && d.isDigit
  | _ => false

def isSexagesimal (first : List Char → Bool) (cs : List Char) : Bool :=
  match Text.pieces (· == ':') cs with
  | head :: next :: rest => first head && (next :: rest).all isSixtieth
  | _ => false

def startsPositive : List Char → Bool
  | c :: rest => c.isDigit && c != '0' && rest.all isDigitOrJoint
  | [] => false

def isInt (cs : List Char) : Bool :=
  let body := dropSign cs
  match body with
  | '0' :: 'b' :: rest => !rest.isEmpty && rest.all fun c => c == '0' || c == '1' || c == '_'
  | '0' :: 'x' :: rest => !rest.isEmpty && rest.all fun c => (hexValue? c).isSome || c == '_'
  | '0' :: rest => rest.all fun c => ('0' ≤ c && c ≤ '7') || c == '_'
  | _ => startsPositive body || isSexagesimal startsPositive body

def isExponent : List Char → Bool
  | [] => true
  | e :: s :: rest => (e == 'e' || e == 'E') && (s == '-' || s == '+') && !rest.isEmpty
    && rest.all Char.isDigit
  | _ => false

def isFloat (cs : List Char) : Bool :=
  let body := dropSign cs
  let whole := body.takeWhile (· != '.')
  let fraction := (body.dropWhile (· != '.')).drop 1
  if [".inf".toList, ".Inf".toList, ".INF".toList].contains body then true
  else if [".nan".toList, ".NaN".toList, ".NAN".toList].contains cs then true
  else if !body.contains '.' then false
  else if whole.isEmpty then
    body == cs && isJoined (fraction.takeWhile isDigitOrJoint)
      && isExponent (fraction.dropWhile isDigitOrJoint)
  else if isJoined whole then isExponent (fraction.dropWhile isDigitOrJoint)
  else isSexagesimal isJoined whole && fraction.all isDigitOrJoint

def boolNames : List String :=
  ["yes", "Yes", "YES", "no", "No", "NO", "true", "True", "TRUE", "false", "False", "FALSE",
    "on", "On", "ON", "off", "Off", "OFF"]

def nullNames : List String := ["~", "null", "Null", "NULL"]

/-- Characters that start other nodes; one of them alone is the value of no node. -/
def nodeMarks : List String := ["!", "&", "*"]

/-- The tag of a plain scalar. A line feed at its end does not count, unless there is nothing else. -/
def tag (cs : List Char) : Tag :=
  let body := dropLineFeed cs
  let text := String.ofList body
  if body.isEmpty then if cs.isEmpty then .null else .string
  else if boolNames.contains text then .bool
  else if isFloat body then .float
  else if isInt body then .int
  else if text = "<<" then .merge
  else if nullNames.contains text then .null
  else if Timestamp.isPlain body then .timestamp
  else if text = "=" then .value
  else if nodeMarks.contains text then .other (Tag.common ++ "yaml")
  else .string

end Plain

end SchemaBindings.Yaml
