import SchemaBindings.Script.Reader
import SchemaBindings.Script.Zone

/-!
Looking for a clause in a text. Matches do not overlap: after one, the search goes on behind it. A
search outside quotes blanks comments first and passes over the matches that start in a literal,
with all the text that they took.
-/

namespace SchemaBindings.Script

set_option autoImplicit false

open Text (isWordChar)

inductive Anchor
  | anywhere
  | wordStart
  | textStart
  deriving DecidableEq, Repr

def Anchor.allows : Anchor → Option Char → Bool
  | .anywhere, _ => true
  | .wordStart, before => !(before.map isWordChar).getD false
  | .textStart, before => before.isNone

structure Clause (α : Type) where
  anchor : Anchor := .anywhere
  read : Reader α

structure Found (α : Type) where
  start : Nat
  stop : Nat
  value : α
  deriving DecidableEq, Repr

namespace Clause

variable {α : Type}

def here? (c : Clause α) (before : Option Char) (text : List Char) : Option (α × Nat) :=
  if c.anchor.allows before then
    (c.read text).map fun (a, rest) => (a, text.length - rest.length)
  else none

/-- The first match whose offset is wanted. `taken` characters at the start of the text belong to
the match before, and no match starts in them. -/
def findFrom (c : Clause α) (wanted : Nat → Bool) :
    Option Char → Nat → Nat → List Char → Option (Found α)
  | _, _, _, [] => none
  | _, offset, taken + 1, ch :: rest => c.findFrom wanted (some ch) (offset + 1) taken rest
  | before, offset, 0, ch :: rest =>
    match c.here? before (ch :: rest) with
    | some (a, n) =>
      if wanted offset then some ⟨offset, offset + n, a⟩
      else c.findFrom wanted (some ch) (offset + 1) (n - 1) rest
    | none => c.findFrom wanted (some ch) (offset + 1) 0 rest

def find? (c : Clause α) (text : List Char) : Option (Found α) :=
  c.findFrom (fun _ => true) none 0 0 text

def occursIn (c : Clause α) (text : List Char) : Bool := (c.find? text).isSome

/-- The first match from `start` on that begins outside literals and comments. -/
def findOutside? (c : Clause α) (text : List Char) (start : Nat) : Option (Found α) :=
  let masked := mask text
  let zs := zones text
  c.findFrom (fun i => zs[i]? != some .literal) (masked.take start).getLast? start 0
    (masked.drop start)

end Clause

end SchemaBindings.Script
