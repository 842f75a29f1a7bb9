import SchemaBindings.Json.Value

/-!
Writing JSON in ASCII. A character outside the printable ASCII range is written as one `\u` escape
for each of its UTF-16 units. A text has a compact form on one line and an indented form with two
spaces a level.
-/

namespace SchemaBindings.Json

set_option autoImplicit false

def hexDigit (n : Nat) : Char := if n < 10 then Char.ofNat (48 + n) else Char.ofNat (87 + n)

def hex4 (n : Nat) : List Char :=
  [hexDigit (n / 4096 % 16), hexDigit (n / 256 % 16), hexDigit (n / 16 % 16), hexDigit (n % 16)]

def utf16Units (c : Char) : List Nat :=
  if c.toNat < 0x10000 then [c.toNat]
  else [0xD800 + (c.toNat - 0x10000) / 0x400, 0xDC00 + (c.toNat - 0x10000) % 0x400]

def escape (c : Char) : List Char :=
  if c = '"' then ['\\', '"']
  else if c = '\\' then ['\\', '\\']
  else if c = '\n' then ['\\', 'n']
  else if c = '\r' then ['\\', 'r']
  else if c = '\t' then ['\\', 't']
  else if c.toNat = 8 then ['\\', 'b']
  else if c.toNat = 12 then ['\\', 'f']
  else if 32 ≤ c.toNat ∧ c.toNat < 127 then [c]
  else (utf16Units c).flatMap fun u => '\\' :: 'u' :: hex4 u

def quote (s : String) : String :=
  String.ofList ('"' :: s.toList.flatMap escape ++ ['"'])

def decimalText (mantissa exponent : Int) : String := toString mantissa ++ "e" ++ toString exponent

mutual

def compact : Json → String
  | .null => "null"
  | .bool b => if b then "true" else "false"
  | .int n => toString n
  | .decimal m e => decimalText m e
  | .string s => quote s
  | .array items => "[" ++ ", ".intercalate (compactItems items) ++ "]"
  | .object members => "\x7b" ++ ", ".intercalate (compactMembers members) ++ "\x7d"

def compactItems : List Json → List String
  | [] => []
  | item :: rest => compact item :: compactItems rest

def compactMembers : List (String × Json) → List String
  | [] => []
  | (key, value) :: rest => (quote key ++ ": " ++ compact value) :: compactMembers rest

end

/-- A bracketed list with one entry a line, or an empty pair of brackets. -/
def block (open_ close : String) (depth : Nat) (entries : List String) : String :=
  if entries = [] then open_ ++ close
  else
    let margin := "\n" ++ String.ofList (List.replicate (2 * (depth + 1)) ' ')
    open_ ++ margin ++ ("," ++ margin).intercalate entries
      ++ "\n" ++ String.ofList (List.replicate (2 * depth) ' ') ++ close

mutual

def indented (depth : Nat) : Json → String
  | .null => "null"
  | .bool b => if b then "true" else "false"
  | .int n => toString n
  | .decimal m e => decimalText m e
  | .string s => quote s
  | .array items => block "[" "]" depth (indentedItems (depth + 1) items)
  | .object members => block "\x7b" "\x7d" depth (indentedMembers (depth + 1) members)

def indentedItems (depth : Nat) : List Json → List String
  | [] => []
  | item :: rest => indented depth item :: indentedItems depth rest

def indentedMembers (depth : Nat) : List (String × Json) → List String
  | [] => []
  | (key, value) :: rest => (quote key ++ ": " ++ indented depth value) :: indentedMembers depth rest

end

end SchemaBindings.Json
