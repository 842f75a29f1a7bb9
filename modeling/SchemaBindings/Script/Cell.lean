import SchemaBindings.Script.Zone
import SchemaBindings.Text.Category

/-!
Parentheses of a script, and the values between them. Only parentheses in code count: one in a literal or
a comment neither opens nor closes anything.

Values stand between commas. Quotes are taken off and doubled quotes read as one, together with an `N`
right before the opening quote; outside quotes, blanks are dropped and everything else is kept.
-/

namespace SchemaBindings.Script

set_option autoImplicit false

open Text (isBlank)

def opens (x : Char × Zone) : Bool := x.1 == '(' && x.2 == .code

def closes (x : Char × Zone) : Bool := x.1 == ')' && x.2 == .code

def closingFrom (depth : Nat) : List (Char × Zone) → Option Nat
  | [] => none
  | x :: rest =>
    if opens x then (closingFrom (depth + 1) rest).map (· + 1)
    else if closes x then
      match depth with
      | 0 => some 0
      | depth + 1 => (closingFrom depth rest).map (· + 1)
    else (closingFrom depth rest).map (· + 1)

/-- The offset of the parenthesis that closes one standing just before `start`. The text from
`start` on is read as a text of its own. -/
def closingParen? (text : List Char) (start : Nat) : Option Nat :=
  (closingFrom 0 (marked (text.drop start))).map (start + ·)

/-- The contents of the outermost groups. `group` holds what is open: how deep the text is nested
inside the group, and the group's text so far, last character first. -/
def groupsFrom (group : Option (Nat × List Char)) : List (Char × Zone) → List (List Char)
  | [] => []
  | x :: rest =>
    match group with
    | none => groupsFrom (if opens x then some (0, []) else none) rest
    | some (depth, body) =>
      if opens x then groupsFrom (some (depth + 1, x.1 :: body)) rest
      else if closes x then
        match depth with
        | 0 => body.reverse :: groupsFrom none rest
        | depth + 1 => groupsFrom (some (depth, x.1 :: body)) rest
      else groupsFrom (some (depth, x.1 :: body)) rest

def groups (text : List Char) : List (List Char) := groupsFrom none (marked text)

/-- `cell` is the value read so far, last character first. A literal that never closes runs to the
end of the row. -/
def cellsFrom : Bool → List Char → List Char → List (List Char)
  | _, cell, [] => [cell.reverse]
  | true, cell, '\'' :: '\'' :: rest => cellsFrom true ('\'' :: cell) rest
  | true, cell, '\'' :: rest => cellsFrom false cell rest
  | true, cell, c :: rest => cellsFrom true (c :: cell) rest
  | false, cell, '\'' :: rest => cellsFrom true cell rest
  | false, cell, 'N' :: '\'' :: rest => cellsFrom true cell rest
  | false, cell, ',' :: rest => cell.reverse :: cellsFrom false [] rest
  | false, cell, c :: rest => cellsFrom false (if isBlank c then cell else c :: cell) rest

theorem cellsFrom_ne_nil (quoted : Bool) (cell row : List Char) : cellsFrom quoted cell row ≠ [] := by
  fun_induction cellsFrom quoted cell row <;> simp_all

def cells (row : List Char) : List (List Char) :=
  if row.all isBlank then [] else cellsFrom false [] row

def cellStrings (row : List Char) : List String := (cells row).map String.ofList

end SchemaBindings.Script
