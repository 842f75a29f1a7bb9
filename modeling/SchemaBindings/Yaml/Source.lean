import SchemaBindings.Bytes.Pieces
import SchemaBindings.Yaml.Error

/-!
The characters of YAML 1.1, and what may be told from those that come next.

The text of a file is read block by block, so that a fault in a later block does not keep the document
before it from being read.
-/

namespace SchemaBindings.Yaml

set_option autoImplicit false

def byteOrderMark : Char := '\ufeff'

def breakOf? (c : Char) : Option Char :=
  if c = '\n' ∨ c = '\u0085' then some '\n'
  else if c = '\u2028' ∨ c = '\u2029' then some c
  else none

def isBreak (c : Char) : Bool := (breakOf? c).isSome

def isSpaceOrTab (c : Char) : Bool := c == ' ' || c == '\t'

def isAllowed (c : Char) : Bool :=
  let n := c.toNat
  n == 0x09 || n == 0x0A || n == 0x0D || n == 0x85 || (0x20 ≤ n && n ≤ 0x7E)
    || (0xA0 ≤ n && n ≤ 0xD7FF) || (0xE000 ≤ n && n ≤ 0xFFFD) || 0x10000 ≤ n

def isNameChar (c : Char) : Bool := c.isAlphanum || c == '-' || c == '_'

def endsOr (p : Char → Bool) : List Char → Bool
  | [] => true
  | c :: _ => p c

def atGap : List Char → Bool := endsOr fun c => isSpaceOrTab c || isBreak c

def atLineEnd : List Char → Bool := endsOr isBreak

def atSpaceOrLineEnd : List Char → Bool := endsOr fun c => c == ' ' || isBreak c

/-- At the start of a line: the mark of three hyphens or three dots. -/
def atMark (mark : Char) (cs : List Char) : Bool :=
  cs.take 3 == List.replicate 3 mark && atGap (cs.drop 3)

def atDocumentMark (cs : List Char) : Bool := atMark '-' cs || atMark '.' cs

def dropLineFeed (cs : List Char) : List Char :=
  if cs.getLast? = some '\n' then cs.dropLast else cs

/-- What line breaks within a scalar become: the first is a space if no other follows, and the others
stay. -/
def foldBreaks (first : Char) (others : List Char) : List Char :=
  if first ≠ '\n' then first :: others else if others.isEmpty then [' '] else others

def hexValue? (c : Char) : Option Nat :=
  if c.isDigit then some (c.toNat - '0'.toNat)
  else if 'a' ≤ c ∧ c ≤ 'f' then some (c.toNat - 'a'.toNat + 10)
  else if 'A' ≤ c ∧ c ≤ 'F' then some (c.toNat - 'A'.toNat + 10)
  else none

def hexNumber? (cs : List Char) : Option Nat :=
  cs.foldl (fun n c => do return 16 * (← n) + (← hexValue? c)) (some 0)

structure Source where
  text : List Char
  /-- What keeps the text from going on; nothing where it ends. -/
  fault : Option Error

namespace Source

def blockSize : Nat := 4096

/-- The blocks up to the first with a character that no document may have. -/
def ofBlocks (fault : Option Error) : List (List Char) → Source
  | [] => ⟨[], fault⟩
  | b :: rest =>
    if b.all isAllowed then
      let s := ofBlocks fault rest
      ⟨b ++ s.text, s.fault⟩
    else ⟨[], some .malformed⟩

/-- The first two blocks are read together. -/
def ofBytes (bytes : ByteArray) : Source :=
  let (blocks, e) := Utf8.blocks blockSize bytes
  match blocks, e.map Error.encoding with
  | a :: b :: rest, fault => ofBlocks fault ((a ++ b) :: rest)
  | blocks, none => ofBlocks none blocks
  | _, some fault => ⟨[], some fault⟩

end Source

end SchemaBindings.Yaml
