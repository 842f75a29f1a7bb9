import SchemaBindings.Text.Case
import SchemaBindings.Text.Category

/-!
Readers of a text's start. A reader takes what it wants and leaves the rest, or fails. None goes back
on what it took: every clause of a script is told apart by the next character alone.
-/

namespace SchemaBindings.Script

set_option autoImplicit false

open Text (isBlank isWordChar isDecimal matchesLetter)

abbrev Reader := StateT (List Char) Option

namespace Reader

def satisfy (p : Char → Bool) : Reader Char
  | [] => none
  | c :: rest => if p c then some (c, rest) else none

def char (c : Char) : Reader Unit := do
  let _ ← satisfy (· == c)

def many (p : Char → Bool) : Reader (List Char)
  | text => some (text.takeWhile p, text.dropWhile p)

def many1 (p : Char → Bool) : Reader (List Char) := do
  let c ← satisfy p
  return c :: (← many p)

def keyLetters : List Char → Reader Unit
  | [] => pure ()
  | k :: rest => do
    let _ ← satisfy (matchesLetter k)
    keyLetters rest

def keyword (word : String) : Reader Unit := keyLetters word.toList

def blanks : Reader Unit := do
  let _ ← many isBlank

def blanks1 : Reader Unit := do
  let _ ← many1 isBlank

def digits : Reader (List Char) := many1 isDecimal

def word : Reader String := do
  return String.ofList (← many1 isWordChar)

/-- A name with or without a square bracket on either side. -/
def name : Reader String := do
  let _ ← optional (char '[')
  let w ← word
  let _ ← optional (char ']')
  return w

def wordEnd : Reader Unit
  | text => if (text.head?.map isWordChar).getD false then none else some ((), text)

/-- Takes the rest of the line; fails if anything but one line break follows it. -/
def lastLine : Reader (List Char)
  | text =>
    let rest := text.dropWhile (· ≠ '\n')
    if rest = [] ∨ rest = ['\n'] then some (text.takeWhile (· ≠ '\n'), rest) else none

@[simp] theorem satisfy_nil (p : Char → Bool) : satisfy p [] = none := rfl

@[simp] theorem satisfy_cons (p : Char → Bool) (c : Char) (rest : List Char) :
    satisfy p (c :: rest) = if p c then some (c, rest) else none := rfl

@[simp] theorem many_apply (p : Char → Bool) (text : List Char) :
    many p text = some (text.takeWhile p, text.dropWhile p) := rfl

end Reader

end SchemaBindings.Script
