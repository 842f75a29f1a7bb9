import SchemaBindings.Text.Quoted
import SchemaBindings.Text.Trim

/-!
Ignore files in the format of Git. Each line is a pattern for paths below the root, or turns around
with an exclamation mark what an earlier line said; of the lines that match a path the last decides.
-/

namespace SchemaBindings

set_option autoImplicit false

open Text

inductive BracketItem
  | char (c : Char)
  | range (first last : Char)
  deriving DecidableEq, Repr

def BracketItem.has : BracketItem → Char → Bool
  | char d, c => c == d
  | range first last, c => first ≤ c && c ≤ last

inductive PathClass
  | just (c : Char)
  | notSlash
  | notNewline
  | bracket (negated : Bool) (items : List BracketItem)
  deriving DecidableEq, Repr

def PathClass.has : PathClass → Char → Bool
  | just d, c => c == d
  | notSlash, c => c != '/'
  | notNewline, c => c != '\n'
  | bracket negated items, c => (items.any fun i => i.has c) != negated

inductive PathPiece
  | one (k : PathClass)
  | many (k : PathClass)
  | several (k : PathClass)
  /-- One after the other, or nothing. -/
  | maybe (pieces : List PathPiece)
  deriving Repr

namespace PathPiece

mutual

def weight : PathPiece → Nat
  | one _ | many _ => 1
  | several _ => 3
  | maybe pieces => 1 + weights pieces

def weights : List PathPiece → Nat
  | [] => 0
  | p :: rest => p.weight + weights rest

end

theorem weights_append (a b : List PathPiece) : weights (a ++ b) = weights a + weights b := by
  induction a with
  | nil => simp [weights]
  | cons p rest ih => simp [weights, ih, Nat.add_assoc]

/-- Whether the pieces take the whole text, up to a line feed at its end. -/
def takes (pieces : List PathPiece) (text : List Char) : Bool :=
  match pieces, text with
  | [], text => text.isEmpty || text == ['\n']
  | one _ :: _, [] => false
  | one k :: rest, c :: text => k.has c && takes rest text
  | many _ :: rest, [] => takes rest []
  | many k :: rest, c :: text => takes rest (c :: text) || (k.has c && takes (many k :: rest) text)
  | several k :: rest, text => takes (one k :: many k :: rest) text
  | maybe pieces :: rest, text => takes rest text || takes (pieces ++ rest) text
termination_by (text.length, weights pieces)
decreasing_by all_goals simp [Prod.lex_def, weight, weights, weights_append]; try omega

end PathPiece

structure IgnoreRule where
  /-- The line takes back what it matches. -/
  negated : Bool
  pieces : List PathPiece
  deriving Repr

inductive IgnoreRuleError
  | noPattern (line : String)
  /-- A range from a character down, and its place in the pattern as a regular expression. -/
  | badRange (first last : Char) (position : Nat)
  deriving DecidableEq, Repr

def bracketText (c : Char) : List Char := if c = '\\' then ['\\', '\\'] else [c]

def IgnoreRuleError.message : IgnoreRuleError → String
  | noPattern line => "Invalid git pattern: " ++ quoted line
  | badRange first last position =>
    "bad character range " ++ String.ofList (bracketText first ++ '-' :: bracketText last)
      ++ " at position " ++ toString position

namespace IgnoreRule

open PathPiece

def anyPath : List PathPiece := [several .notNewline]

def slash : PathPiece := one (.just '/')

def below : List PathPiece := [slash, many .notNewline]

def anyName : List PathPiece := [several .notSlash]

def bracketItems : List Char → List BracketItem
  | first :: '-' :: last :: rest => .range first last :: bracketItems rest
  | c :: rest => .char c :: bracketItems rest
  | [] => []

/-- What an opening bracket holds and how many characters that takes, the closing bracket counted.
A closing bracket at the start, or after the sign that negates, stands for itself. -/
def bracket? (cs : List Char) : Option (PathClass × Nat) :=
  let negated := cs.head? = some '!' ∨ cs.head? = some '^'
  let body := if negated then cs.drop 1 else cs
  let first := if body.head? = some ']' then 1 else 0
  let held := body.take first ++ (body.drop first).takeWhile (· ≠ ']')
  if held.length < body.length then
    some (.bracket (decide negated) (bracketItems held), (if negated then 1 else 0) + held.length + 1)
  else none

/-- The pieces of one step of a pattern; the first `taken` characters are passed over. Nothing comes
of a step that ends in a backslash. -/
def stepPieces : Nat → List Char → Option (List PathPiece)
  | _, [] => some []
  | taken + 1, _ :: rest => stepPieces taken rest
  | 0, '\\' :: [] => none
  | 0, '\\' :: c :: rest => (stepPieces 0 rest).map (one (.just c) :: ·)
  | 0, '*' :: rest => (stepPieces 0 rest).map (many .notSlash :: ·)
  | 0, '?' :: rest => (stepPieces 0 rest).map (one .notSlash :: ·)
  | 0, '[' :: rest =>
    match bracket? rest with
    | some (k, taken) => (stepPieces taken rest).map (one k :: ·)
    | none => (stepPieces 0 rest).map (one (.just '[') :: ·)
  | 0, c :: rest => (stepPieces 0 rest).map (one (.just c) :: ·)

def dropRepeats : List String → List String
  | "**" :: "**" :: rest => dropRepeats ("**" :: rest)
  | step :: rest => step :: dropRepeats rest
  | [] => []

/-- The steps of a pattern seen from the root, with an empty list for a pattern without any. A
pattern of one step stands for any path that ends in it, and a step after the last slash is what lies
below the folder. -/
def rootedSteps (steps : List String) : List String :=
  let rooted := match steps with
    | "" :: rest => rest
    | [step] => if step = "**" then steps else "**" :: steps
    | [step, ""] => if step = "**" then steps else "**" :: steps
    | _ => steps
  if rooted.length > 1 ∧ rooted.getLast? = some "" then rooted.dropLast ++ ["**"] else rooted

/-- Pieces for the steps from the given one on; `separated` says that a slash has to come first. -/
def piecesFrom (first separated : Bool) : List String → Option (List PathPiece)
  | [] => some []
  | ["**"] => some (if first then anyName ++ [maybe below] else below)
  | "**" :: rest =>
    if first then (piecesFrom false false rest).map (maybe (anyPath ++ [slash]) :: ·)
    else (piecesFrom false true rest).map (maybe (slash :: anyPath) :: ·)
  | step :: rest => do
    let own ← if step = "*" then some anyName else stepPieces 0 step.toList
    let more ← piecesFrom false true rest
    return (if separated then [slash] else []) ++ own
      ++ (if rest.isEmpty then [maybe below] else []) ++ more

def isSpecial (c : Char) : Bool :=
  "()[]\x7b\x7d?*+-|^$\\.&~# \t\n\r\x0b\x0c".toList.contains c

def itemWidth : BracketItem → Nat
  | .char c => (bracketText c).length
  | .range first last => (bracketText first).length + 1 + (bracketText last).length

def classWidth : PathClass → Nat
  | .just c => if isSpecial c then 2 else 1
  | .notSlash => "[^/]".length
  | .notNewline => ".".length
  | .bracket negated items => "[]".length + negated.toNat + (items.map itemWidth).foldr (· + ·) 0

mutual

def width : PathPiece → Nat
  | .one k => classWidth k
  | .many k | .several k => classWidth k + 1
  | .maybe pieces => "(?:)?".length + widths pieces

def widths : List PathPiece → Nat
  | [] => 0
  | p :: rest => width p + widths rest

end

def badItem? (position : Nat) : List BracketItem → Option IgnoreRuleError
  | [] => none
  | .char c :: rest => badItem? (position + itemWidth (.char c)) rest
  | .range first last :: rest =>
    if last < first then some (.badRange first last position)
    else badItem? (position + itemWidth (.range first last)) rest

def badRange? (position : Nat) : List PathPiece → Option IgnoreRuleError
  | [] => none
  | p :: rest =>
    (match p with
      | .one (.bracket negated items) => badItem? (position + "[".length + negated.toNat) items
      | _ => none) <|> badRange? (position + width p) rest

/-- Takes blanks off a line, but no blank at the end that a backslash stands before. -/
def trimLine (line : List Char) : List Char :=
  if ['\\', ' '].isSuffixOf line then line.dropWhile isBlank else trim line

def patternPieces (pattern : List Char) : Option (List PathPiece) :=
  let steps := dropRepeats ((Text.pieces (· == '/') pattern).map String.ofList)
  if steps = ["**", ""] then some (anyPath ++ below)
  else match rootedSteps steps with
    | [] => none
    | rooted => piecesFrom true false rooted

def ofLine (line : String) : Except IgnoreRuleError (Option IgnoreRule) :=
  let cs := trimLine line.toList
  if cs.isEmpty ∨ cs.head? = some '#' ∨ cs = ['/'] then .ok none
  else
    let negated := cs.head? = some '!'
    match patternPieces (if negated then cs.drop 1 else cs) with
    | none => .error (.noPattern line)
    | some pieces =>
      match badRange? "^".length pieces with
      | some e => .error e
      | none => .ok (some ⟨decide negated, pieces⟩)

def isLineEnd (c : Char) : Bool :=
  [0x0A, 0x0B, 0x0C, 0x0D, 0x1C, 0x1D, 0x1E, 0x85, 0x2028, 0x2029].contains c.toNat

def ofText (text : String) : Except IgnoreRuleError (List IgnoreRule) :=
  (((Text.pieces isLineEnd text.toList).map String.ofList).mapM ofLine).map (·.filterMap id)

/-- Whether the rules ignore a path, of which a folder's ends in a slash. -/
def ignores (rules : List IgnoreRule) (path : String) : Bool :=
  match (rules.filter fun r => takes r.pieces path.toList).getLast? with
  | some r => !r.negated
  | none => false

end IgnoreRule

end SchemaBindings
