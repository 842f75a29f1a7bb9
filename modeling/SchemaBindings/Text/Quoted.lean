import SchemaBindings.Text.Case
import SchemaBindings.Text.Printable

/-!
Texts by the numbers of their characters, and the quoted form in which messages show a text. A number may
be a surrogate, which stands for a character only in a pair: a text with surrogates is no string.

A quoted text stands on one line, with everything that does not print as an escape. Single quotes are used
unless the text holds one and no double quote.
-/

namespace SchemaBindings.Text

set_option autoImplicit false

abbrev Codes := List Nat

namespace Codes

def ofChars (cs : List Char) : Codes := cs.map Char.toNat

def ofString (s : String) : Codes := ofChars s.toList

def isCharacter (n : Nat) : Bool := n.isValidChar

/-- A character by its number; a surrogate shows as a replacement character. -/
def shownChar (n : Nat) : Char := if n.isValidChar then Char.ofNat n else '\ufffd'

def string? (t : Codes) : Option String :=
  if t.all isCharacter then some (String.ofList (t.map shownChar)) else none

/-- The characters of a text in which a high surrogate and a low one after it stand for one. -/
def joined : Codes → List Char
  | [] => []
  | [u] => [shownChar u]
  | u :: v :: rest =>
    if 0xD800 ≤ u ∧ u < 0xDC00 ∧ 0xDC00 ≤ v ∧ v < 0xE000 then
      Char.ofNat (0x10000 + (u - 0xD800) * 0x400 + (v - 0xDC00)) :: joined rest
    else shownChar u :: joined (v :: rest)

/-- The small form of a text; surrogates have none, and separate words. -/
def lower (t : Codes) : Codes :=
  (t.splitBy fun a b => isCharacter a == isCharacter b).flatMap fun run =>
    if run.all isCharacter then ofChars (lowerChars (run.map shownChar)) else run

theorem shownChar_toNat (c : Char) : shownChar c.toNat = c := by
  have h : c.toNat.isValidChar := c.valid
  simp [shownChar, h]

theorem isCharacter_toNat (c : Char) : isCharacter c.toNat = true :=
  decide_eq_true (show c.toNat.isValidChar from c.valid)

@[simp] theorem string?_ofString (s : String) : (ofString s).string? = some s := by
  simp [string?, ofString, ofChars, isCharacter_toNat, Function.comp_def, shownChar_toNat]

end Codes

def hexDigits (width n : Nat) : List Char :=
  (List.range width).map fun i => Nat.digitChar (n / Nat.pow 16 (width - 1 - i) % 16)

def escapeCode (n : Nat) : List Char :=
  if n < 0x100 then '\\' :: 'x' :: hexDigits 2 n
  else if n < 0x10000 then '\\' :: 'u' :: hexDigits 4 n
  else '\\' :: 'U' :: hexDigits 8 n

def escapeFor (shows : Char → Bool) (quote c : Char) : List Char :=
  if c = quote ∨ c = '\\' then ['\\', c]
  else if c = '\n' then ['\\', 'n']
  else if c = '\r' then ['\\', 'r']
  else if c = '\t' then ['\\', 't']
  else if shows c then [c]
  else escapeCode c.toNat

def quoteBy (shows : Char → Bool) (t : Codes) : String :=
  let quote := if t.contains '\''.toNat ∧ !t.contains '"'.toNat then '"' else '\''
  String.ofList (quote :: t.flatMap (fun n =>
    if Codes.isCharacter n then escapeFor shows quote (Char.ofNat n) else escapeCode n) ++ [quote])

def quotedCodes (t : Codes) : String := quoteBy isPrintable t

def quoted (s : String) : String := quotedCodes (.ofString s)

def quotedAscii (s : String) : String :=
  quoteBy (fun c => isPrintable c && c.toNat < 0x80) (.ofString s)

end SchemaBindings.Text
