/-!
Which characters of a script are code, which belong to a quoted literal and which to a comment.

A literal stands between single quotes, and a doubled quote in it is one quote of its text. A comment
runs from `--` to the end of the line, or from `/*` to the next `*/`. What is open at the end of the
text ends there. Everything else about literals and comments is read off the zones.

Blanking the comments keeps every offset and every line break, so a place in the masked text is the same
place in the script.
-/

namespace SchemaBindings.Script

set_option autoImplicit false

inductive Zone
  | code
  | literal
  | comment
  deriving DecidableEq, Repr

inductive Mode
  | code
  | literal
  /-- After the first quote of a doubled pair. -/
  | doubled
  | lineComment
  /-- Between the two characters that open a block comment. -/
  | opening
  | blockComment
  /-- Between the two characters that close a block comment. -/
  | closing
  deriving DecidableEq, Repr

/-- The zone of a character and the mode after it; the character that follows may matter. -/
def Mode.step : Mode → Char → Option Char → Zone × Mode
  | .code, '\'', _ => (.literal, .literal)
  | .code, '-', some '-' => (.comment, .lineComment)
  | .code, '/', some '*' => (.comment, .opening)
  | .code, _, _ => (.code, .code)
  | .literal, '\'', some '\'' => (.literal, .doubled)
  | .literal, '\'', _ => (.literal, .code)
  | .literal, _, _ => (.literal, .literal)
  | .doubled, _, _ => (.literal, .literal)
  | .lineComment, '\n', _ => (.code, .code)
  | .lineComment, _, _ => (.comment, .lineComment)
  | .opening, _, _ => (.comment, .blockComment)
  | .blockComment, '*', some '/' => (.comment, .closing)
  | .blockComment, _, _ => (.comment, .blockComment)
  | .closing, _, _ => (.comment, .code)

def zonesFrom (m : Mode) : List Char → List Zone
  | [] => []
  | c :: rest => (m.step c rest.head?).1 :: zonesFrom (m.step c rest.head?).2 rest

def zones (text : List Char) : List Zone := zonesFrom .code text

@[simp] theorem zonesFrom_nil (m : Mode) : zonesFrom m [] = [] := rfl

@[simp] theorem length_zonesFrom (m : Mode) (text : List Char) :
    (zonesFrom m text).length = text.length := by
  induction text generalizing m with
  | nil => rfl
  | cons c rest ih => simp [zonesFrom, ih]

@[simp] theorem length_zones (text : List Char) : (zones text).length = text.length :=
  length_zonesFrom .code text

def marked (text : List Char) : List (Char × Zone) := text.zip (zones text)

@[simp] theorem length_marked (text : List Char) : (marked text).length = text.length := by
  simp [marked]

def commentLength? : List Char → Option Nat
  | '-' :: '-' :: rest => some (2 + (rest.takeWhile (· ≠ '\n')).length)
  | '/' :: '*' :: rest => some (2 + blockLength rest)
  | _ => none
where
  blockLength : List Char → Nat
    | [] => 0
    | '*' :: '/' :: _ => 2
    | _ :: rest => 1 + blockLength rest

def blank (c : Char) (z : Zone) : Char :=
  if z = .comment ∧ c ≠ '\r' ∧ c ≠ '\n' then ' ' else c

def mask (text : List Char) : List Char := List.zipWith blank text (zones text)

@[simp] theorem blank_code (c : Char) : blank c .code = c := by simp [blank]

@[simp] theorem blank_literal (c : Char) : blank c .literal = c := by simp [blank]

@[simp] theorem mask_nil : mask [] = [] := rfl

@[simp] theorem length_mask (text : List Char) : (mask text).length = text.length := by
  simp [mask]

/-- Start and end of each run of literal characters; `start` is that of a run still open. -/
def spansFrom (offset : Nat) (start : Option Nat) : List Zone → List (Nat × Nat)
  | [] => (start.map (·, offset)).toList
  | .literal :: rest => spansFrom (offset + 1) (some (start.getD offset)) rest
  | _ :: rest => (start.map (·, offset)).toList ++ spansFrom (offset + 1) none rest

def quotedSpans (text : List Char) : List (Nat × Nat) := spansFrom 0 none (zones text)

end SchemaBindings.Script
