import SchemaBindings.Json.Value
import SchemaBindings.Text.Quoted

/-!
Reading JSON. The text is first cut into tokens, and then the tokens are read with a stack of the
arrays and objects that are still open.
-/

namespace SchemaBindings.Json

set_option autoImplicit false

inductive Token
  | openBracket
  | closeBracket
  | openBrace
  | closeBrace
  | comma
  | colon
  | string (s : String)
  | scalar (value : Json)
  deriving Repr

def hexValue? (c : Char) : Option Nat :=
  if '0' ≤ c ∧ c ≤ '9' then some (c.toNat - 48)
  else if 'a' ≤ c ∧ c ≤ 'f' then some (c.toNat - 87)
  else if 'A' ≤ c ∧ c ≤ 'F' then some (c.toNat - 55)
  else none

def hexNumber? (cs : List Char) : Option Nat :=
  cs.foldlM (fun n c => (hexValue? c).map (16 * n + ·)) 0

def simpleEscape? (c : Char) : Option Nat :=
  [('"', 34), ('\\', 92), ('/', 47), ('b', 8), ('f', 12), ('n', 10), ('r', 13), ('t', 9)].lookup c

/-- The UTF-16 units and whole code points of a string up to its closing quote, and the rest. A control
character stands in a string only as an escape. -/
def stringUnits : List Char → Option (List Nat × List Char)
  | [] => none
  | '"' :: rest => some ([], rest)
  | '\\' :: 'u' :: a :: b :: c :: d :: rest => do
    let u ← hexNumber? [a, b, c, d]
    let (us, rest) ← stringUnits rest
    return (u :: us, rest)
  | '\\' :: c :: rest => do
    let u ← simpleEscape? c
    let (us, rest) ← stringUnits rest
    return (u :: us, rest)
  | c :: rest =>
    if c.toNat < 32 then none
    else do
      let (us, rest) ← stringUnits rest
      return (c.toNat :: us, rest)

def isNumberChar (c : Char) : Bool :=
  c.isDigit || c == '-' || c == '+' || c == '.' || c == 'e' || c == 'E'

def digitsValue? (cs : List Char) : Option Nat :=
  if cs ≠ [] ∧ cs.all Char.isDigit then
    some (cs.foldl (fun n c => 10 * n + (c.toNat - 48)) 0)
  else none

def signed (negative : Bool) (n : Nat) : Int := if negative then -(n : Int) else n

def signedValue? : List Char → Option Int
  | '-' :: rest => (digitsValue? rest).map (signed true)
  | '+' :: rest => (digitsValue? rest).map (signed false)
  | rest => (digitsValue? rest).map (signed false)

def fraction? : List Char → Option (List Char × List Char)
  | '.' :: rest =>
    let digits := rest.takeWhile Char.isDigit
    if digits = [] then none else some (digits, rest.dropWhile Char.isDigit)
  | rest => some ([], rest)

def exponent? : List Char → Option Int
  | [] => some 0
  | c :: rest => if c = 'e' ∨ c = 'E' then signedValue? rest else none

/-- The value of a number without its sign. Its whole part has no zero in front. -/
def unsigned? (negative : Bool) (cs : List Char) : Option Json := do
  let whole := cs.takeWhile Char.isDigit
  let rest := cs.dropWhile Char.isDigit
  if whole = [] ∨ whole.head? = some '0' ∧ whole ≠ ['0'] then none
  else if rest = [] then return .int (signed negative (← digitsValue? whole))
  else do
    let (fraction, rest) ← fraction? rest
    let mantissa ← digitsValue? (whole ++ fraction)
    let e ← exponent? rest
    return .decimal (signed negative mantissa) (e - fraction.length)

def number? : List Char → Option Json
  | '-' :: rest => unsigned? true rest
  | rest => unsigned? false rest

def word? (cs : List Char) : Option Json :=
  [("null", Json.null), ("true", .bool true), ("false", .bool false)].lookup (String.ofList cs)

theorem length_of_stringUnits {text rest : List Char} {us : List Nat}
    (h : stringUnits text = some (us, rest)) : rest.length < text.length := by
  fun_induction stringUnits text generalizing us rest with
  | case1 => simp at h
  | case2 r => simp at h; simp [← h.2]
  | case3 a b c d r ih =>
    simp only [Option.bind_eq_bind, Option.bind_eq_some_iff] at h
    obtain ⟨_, _, ⟨_, r'⟩, h', h⟩ := h
    have := ih h'
    simp at h
    simp [← h.2]
    omega
  | case4 c r _ ih =>
    simp only [Option.bind_eq_bind, Option.bind_eq_some_iff] at h
    obtain ⟨_, _, ⟨_, r'⟩, h', h⟩ := h
    have := ih h'
    simp at h
    simp [← h.2]
    omega
  | case5 => simp at h
  | case6 c r _ _ _ _ ih =>
    simp only [Option.bind_eq_bind, Option.bind_eq_some_iff] at h
    obtain ⟨⟨_, r'⟩, h', h⟩ := h
    have := ih h'
    simp at h
    simp [← h.2]
    omega

def punctuation? (c : Char) : Option Token :=
  match c with
  | '[' => some .openBracket
  | ']' => some .closeBracket
  | '\x7b' => some .openBrace
  | '\x7d' => some .closeBrace
  | ',' => some .comma
  | ':' => some .colon
  | _ => none

def isSpace (c : Char) : Bool := c == ' ' || c == '\n' || c == '\r' || c == '\t'

def tokens (text : List Char) : Option (List Token) :=
  match text with
  | [] => some []
  | c :: rest =>
    if isSpace c then tokens rest
    else if c = '"' then
      match h : stringUnits rest with
      | none => none
      | some (us, after) =>
        have := length_of_stringUnits h
        (tokens after).map (.string (String.ofList (Text.Codes.joined us)) :: ·)
    else match punctuation? c with
      | some t => (tokens rest).map (t :: ·)
      | none =>
        have := (List.dropWhile_sublist (l := rest) isNumberChar).length_le
        have := (List.dropWhile_sublist (l := rest) Char.isAlpha).length_le
        if isNumberChar c then do
          let value ← number? (c :: rest.takeWhile isNumberChar)
          return .scalar value :: (← tokens (rest.dropWhile isNumberChar))
        else do
          let value ← word? (c :: rest.takeWhile Char.isAlpha)
          return .scalar value :: (← tokens (rest.dropWhile Char.isAlpha))
termination_by text.length
decreasing_by all_goals (simp; try omega)

/-- An array or object that is still open, with what it holds so far, last first. -/
inductive Frame
  | items (done : List Json)
  | members (done : List (String × Json)) (key : String)

/-- Reads tokens inside the open frames. `value` is a value just finished; with `none`, one must
begin. -/
def build : List Frame → Option Json → List Token → Option Json
  | [], some v, [] => some v
  | .items done :: frames, some v, .comma :: ts => build (.items (v :: done) :: frames) none ts
  | .items done :: frames, some v, .closeBracket :: ts =>
    build frames (some (.array (v :: done).reverse)) ts
  | .members done key :: frames, some v, .comma :: .string next :: .colon :: ts =>
    build (.members ((key, v) :: done) next :: frames) none ts
  | .members done key :: frames, some v, .closeBrace :: ts =>
    build frames (some (.object ((key, v) :: done).reverse)) ts
  | frames, none, .scalar v :: ts => build frames (some v) ts
  | frames, none, .string s :: ts => build frames (some (.string s)) ts
  | frames, none, .openBracket :: .closeBracket :: ts => build frames (some (.array [])) ts
  | frames, none, .openBracket :: ts => build (.items [] :: frames) none ts
  | frames, none, .openBrace :: .closeBrace :: ts => build frames (some (.object [])) ts
  | frames, none, .openBrace :: .string key :: .colon :: ts =>
    build (.members [] key :: frames) none ts
  | _, _, _ => none

def ofString? (s : String) : Option Json := (tokens s.toList).bind (build [] none)

end SchemaBindings.Json
