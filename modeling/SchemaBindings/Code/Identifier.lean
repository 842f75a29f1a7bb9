import SchemaBindings.Text.Case
import SchemaBindings.Text.Category

/-!
Names in generated code and of generated files, made from the names and texts of a schema.
-/

namespace SchemaBindings.Code

set_option autoImplicit false

open Text

def placeholder : String := "Unknown"

/-- An identifier from any text: its letters, digits and underscores, with an underscore before a
leading digit. A text that has none of them gives the placeholder. -/
def identifier (text : Option String) : String :=
  let kept := ((text.getD "").toList).filter isWordChar
  match kept with
  | [] => placeholder
  | c :: _ => if isDigit c then String.ofList ('_' :: kept) else String.ofList kept

/-- Each capital letter becomes small, with a hyphen before it unless it comes first. -/
def kebabCase (name : String) : String :=
  match name.toList with
  | [] => ""
  | c :: rest => String.ofList ((if isCapital c then lowerChar c else [c]) ++ rest.flatMap fun c =>
      if isCapital c then '-' :: lowerChar c else [c])

def endsWith (s ending : String) : Bool := ending.toList.isSuffixOf s.toList

def plural (name : String) : String :=
  if endsWith name "y" && !(["ay", "ey", "oy", "uy"].any (endsWith name)) then
    String.ofList name.toList.dropLast ++ "ies"
  else if ["s", "x", "ch", "sh"].any (endsWith name) then name ++ "es"
  else name ++ "s"

def lowerCamel (name : String) : String :=
  match name.toList with
  | [] => ""
  | c :: rest => String.ofList (lowerChar c ++ rest)

def typeScriptFileName (table : String) : String := kebabCase table ++ "-enum.ts"

end SchemaBindings.Code
