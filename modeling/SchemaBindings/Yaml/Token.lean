import SchemaBindings.Yaml.Scalar
import SchemaBindings.Yaml.Source

/-!
The tokens of a document. Indentation becomes tokens too: the start of a block collection stands
before its first entry, and its end before the first thing that is indented less. What starts an entry
of a mapping shows only at the colon after it, and the token for a key is then put in before it. Where
the text is at fault the tokens end, and among those before are none that might still be keys.
-/

namespace SchemaBindings.Yaml

set_option autoImplicit false

open Text (Codes)

inductive Directive
  | version (major : Nat)
  | tag (handle start : String)
  | other
  deriving DecidableEq, Repr

inductive Token
  | directive (d : Directive)
  | documentStart
  | documentEnd
  | sequenceStart
  | mappingStart
  | blockEnd
  | flowSequenceStart
  | flowSequenceEnd
  | flowMappingStart
  | flowMappingEnd
  | item
  | comma
  | key
  | value
  | aliasOf (name : String)
  | anchor (name : String)
  /-- A tag without a handle stands for itself. -/
  | tag (handle : Option String) (ending : String)
  | scalar (text : Codes) (plain : Bool)
  deriving DecidableEq, Repr

def readName (cs : List Char) : Except Error (String × List Char) :=
  let name := cs.takeWhile isNameChar
  if name.isEmpty then .error .malformed else .ok (String.ofList name, cs.dropWhile isNameChar)

def endsAnchor (c : Char) : Bool :=
  isSpaceOrTab c || isBreak c || ['?', ':', ',', ']', '\x7d', '%', '@', '\x60'].contains c

def readAnchor (cs : List Char) : Except Error (String × List Char) := do
  let (name, rest) ← readName cs
  if endsOr endsAnchor rest then return (name, rest) else throw .malformed

def isUriChar (c : Char) : Bool := c.isAlphanum || "-;/?:@&=+$,_.!~*'()[]%".toList.contains c

def uriBytes : List Char → Except Error (List UInt8)
  | [] => .ok []
  | '%' :: a :: b :: rest =>
    match hexNumber? [a, b] with
    | some n => do return UInt8.ofNat n :: (← uriBytes rest)
    | none => .error .malformed
  | '%' :: _ => .error .malformed
  | c :: rest => do return UInt8.ofNat c.toNat :: (← uriBytes rest)

def readUri (cs : List Char) : Except Error (String × List Char) := do
  let bytes ← uriBytes (cs.takeWhile isUriChar)
  if bytes.isEmpty then throw .malformed
  match String.fromUTF8? ⟨bytes.toArray⟩ with
  | some uri => return (uri, cs.dropWhile isUriChar)
  | none => throw .malformed

def readHandle (cs : List Char) : Except Error (String × List Char) :=
  match cs with
  | '!' :: rest =>
    if rest.head? = some ' ' then .ok ("!", rest)
    else
      let name := rest.takeWhile isNameChar
      match rest.dropWhile isNameChar with
      | '!' :: after => .ok (String.ofList ('!' :: name ++ ['!']), after)
      | _ => .error .malformed
  | _ => .error .malformed

def readTag (cs : List Char) : Except Error (Token × List Char) := do
  let (tag, rest) ← match cs.drop 1 with
    | '<' :: more => do
      let (uri, rest) ← readUri more
      if rest.head? = some '>' then pure (Token.tag none uri, rest.drop 1) else throw .malformed
    | more =>
      if atGap more then pure (Token.tag none "!", more)
      else do
        let word := more.takeWhile fun c => c != ' ' && !isBreak c
        let (handle, after) ← if word.contains '!' then readHandle cs else pure ("!", more)
        let (uri, rest) ← readUri after
        pure (Token.tag (some handle) uri, rest)
  if atSpaceOrLineEnd rest then return (tag, rest) else throw .malformed

def readDigits (cs : List Char) : Except Error (Nat × List Char) :=
  let digits := cs.takeWhile Char.isDigit
  if digits.isEmpty then .error .malformed
  else if Text.Numeral.digitLimit < digits.length then
    .error (.numeral (.tooLongToRead digits.length))
  else .ok (Text.Numeral.value digits, cs.dropWhile Char.isDigit)

def dropSpaces (cs : List Char) : List Char := cs.dropWhile (· == ' ')

def readVersion (cs : List Char) : Except Error (Directive × List Char) := do
  let (major, rest) ← readDigits (dropSpaces cs)
  if rest.head? ≠ some '.' then throw .malformed
  let (_, rest) ← readDigits (rest.drop 1)
  if atSpaceOrLineEnd rest then return (.version major, rest) else throw .malformed

def readTagDirective (cs : List Char) : Except Error (Directive × List Char) := do
  let (handle, rest) ← readHandle (dropSpaces cs)
  if rest.head? ≠ some ' ' then throw .malformed
  let (start, rest) ← readUri (dropSpaces rest)
  if atSpaceOrLineEnd rest then return (.tag handle start, rest) else throw .malformed

def readDirective (cs : List Char) : Except Error (Directive × List Char) := do
  let (name, rest) ← readName cs
  if !atSpaceOrLineEnd rest then throw .malformed
  let (d, rest) ← match name with
    | "YAML" => readVersion rest
    | "TAG" => readTagDirective rest
    | _ => pure (Directive.other, rest.dropWhile (!isBreak ·))
  return (d, ← dropLineRest rest)

/-- The column counts no byte order marks. -/
structure Cursor where
  rest : List Char
  index : Nat := 0
  line : Nat := 0
  column : Nat := 0

namespace Cursor

def advance (c : Cursor) : Nat → Cursor
  | 0 => c
  | n + 1 =>
    match c.rest with
    | [] => c
    | x :: rest =>
      (if isBreak x then ⟨rest, c.index + 1, c.line + 1, 0⟩
        else ⟨rest, c.index + 1, c.line, c.column + if x = byteOrderMark then 0 else 1⟩ :
        Cursor).advance n

def goTo (c : Cursor) (rest : List Char) : Cursor := c.advance (c.rest.length - rest.length)

end Cursor

/-- A token that starts a key if a colon comes soon. -/
structure KeySpot where
  flow : Nat
  token : Nat
  place : Cursor
  /-- It can be nothing else. -/
  required : Bool

structure Layout where
  tokens : Array Token := #[]
  flow : Nat := 0
  /-- The columns of the open block collections, the innermost first. -/
  columns : List Nat := []
  keyAllowed : Bool := true
  spots : List KeySpot := []

namespace Layout

/-- The column that is one more than that of the innermost block collection; zero outside all. -/
def least (l : Layout) : Nat :=
  match l.columns with
  | [] => 0
  | c :: _ => c + 1

def push (l : Layout) (t : Token) : Layout := { l with tokens := l.tokens.push t }

def forget (l : Layout) (p : KeySpot → Bool) : Except Error Layout :=
  if l.spots.any fun s => p s && s.required then .error .malformed
  else .ok { l with spots := l.spots.filter fun s => !p s }

def forgetHere (l : Layout) : Except Error Layout := l.forget fun s => s.flow == l.flow

def keyLimit : Nat := 1024

def forgetStale (l : Layout) (c : Cursor) : Except Error Layout :=
  l.forget fun s => s.place.line != c.line || keyLimit < c.index - s.place.index

def mark (l : Layout) (c : Cursor) : Except Error Layout :=
  if l.keyAllowed then do
    let required := l.flow == 0 && l.columns.head? == some c.column
    let l ← l.forgetHere
    return { l with spots := ⟨l.flow, l.tokens.size, c, required⟩ :: l.spots }
  else .ok l

def isNewColumn (l : Layout) (column : Nat) : Bool := l.least ≤ column

def closeTo (tokens : Array Token) (column : Nat) : List Nat → Array Token × List Nat
  | [] => (tokens, [])
  | c :: rest => if column < c then closeTo (tokens.push .blockEnd) column rest else (tokens, c :: rest)

def unwind (l : Layout) (column : Nat) : Layout :=
  if l.flow ≠ 0 then l
  else
    let (tokens, columns) := closeTo l.tokens column l.columns
    { l with tokens, columns }

def unwindAll (l : Layout) : Layout :=
  if l.flow ≠ 0 then l
  else { l with tokens := l.tokens ++ (l.columns.map fun _ => Token.blockEnd).toArray, columns := [] }

/-- Between brackets nothing is opened by indentation. -/
def openBlock (l : Layout) (column : Nat) (t : Token) : Except Error Layout :=
  if l.flow ≠ 0 then .ok l
  else if !l.keyAllowed then .error .malformed
  else if l.isNewColumn column then .ok { l.push t with columns := column :: l.columns }
  else .ok l

abbrev Step := Except Error (Layout × List Char)

def documentMark (l : Layout) (t : Token) (rest : List Char) : Step := do
  let l ← l.unwindAll.forgetHere
  return ({ l.push t with keyAllowed := false }, rest)

def flowStart (l : Layout) (c : Cursor) (t : Token) (rest : List Char) : Step := do
  let l ← l.mark c
  return ({ l.push t with flow := l.flow + 1, keyAllowed := true }, rest)

def flowEnd (l : Layout) (t : Token) (rest : List Char) : Step := do
  let l ← l.forgetHere
  return ({ l.push t with flow := l.flow - 1, keyAllowed := false }, rest)

def comma (l : Layout) (rest : List Char) : Step := do
  let l ← l.forgetHere
  return ({ l.push .comma with keyAllowed := true }, rest)

def blockItem (l : Layout) (c : Cursor) (rest : List Char) : Step := do
  let l ← (← l.openBlock c.column .sequenceStart).forgetHere
  return ({ l.push .item with keyAllowed := true }, rest)

def explicitKey (l : Layout) (c : Cursor) (rest : List Char) : Step := do
  let l ← (← l.openBlock c.column .mappingStart).forgetHere
  return ({ l.push .key with keyAllowed := l.flow == 0 }, rest)

/-- A colon: of the key that was noted at this level, or else of an explicit one. -/
def colon (l : Layout) (c : Cursor) (rest : List Char) : Step :=
  match l.spots.find? fun s => s.flow == l.flow with
  | some s =>
    let starts := l.flow == 0 && l.isNewColumn s.place.column
    let before := l.tokens.extract 0 s.token ++ (if starts then #[Token.mappingStart] else #[])
    .ok ({ l with
      tokens := (before.push .key ++ l.tokens.extract s.token l.tokens.size).push .value
      columns := if starts then s.place.column :: l.columns else l.columns
      spots := l.spots.filter fun t => t.flow != l.flow
      keyAllowed := false }, rest)
  | none => do
    let l ← (← l.openBlock c.column .mappingStart).forgetHere
    return ({ l.push .value with keyAllowed := l.flow == 0 }, rest)

/-- A token of a node that may start a key, and that no key may come right after. -/
def content (l : Layout) (c : Cursor) (read : Except Error (Token × List Char)) : Step := do
  let l ← l.mark c
  let (t, rest) ← read
  return ({ l.push t with keyAllowed := false }, rest)

def block (l : Layout) (folded : Bool) (cs : List Char) : Step := do
  let l ← l.forgetHere
  let (text, rest) ← readBlock folded (max l.least 1) cs
  return ({ l.push (.scalar (.ofChars text) false) with keyAllowed := true }, rest)

def isIndicator (c : Char) : Bool :=
  "-?:,[]\x7b\x7d#&*!|>'\"%@\x60".toList.contains c

def startsPlain (inFlow : Bool) (c : Char) (rest : List Char) : Bool :=
  !(isIndicator c || isSpaceOrTab c)
    || (!atGap rest && (c == '-' || (!inFlow && (c == '?' || c == ':'))))

def scalarToken (plain : Bool) (read : Codes × List Char) : Token × List Char :=
  (.scalar read.1 plain, read.2)

def readToken (l : Layout) (c : Cursor) (x : Char) (rest : List Char) : Step :=
  let inFlow : Bool := l.flow != 0
  let atStart : Bool := c.column == 0
  if x = '%' ∧ atStart then do
    let l ← l.unwindAll.forgetHere
    let (d, rest) ← readDirective rest
    return ({ l.push (.directive d) with keyAllowed := false }, rest)
  else if atStart ∧ atMark '-' (x :: rest) then documentMark l .documentStart (rest.drop 2)
  else if atStart ∧ atMark '.' (x :: rest) then documentMark l .documentEnd (rest.drop 2)
  else if x = '[' then flowStart l c .flowSequenceStart rest
  else if x = '\x7b' then flowStart l c .flowMappingStart rest
  else if x = ']' then flowEnd l .flowSequenceEnd rest
  else if x = '\x7d' then flowEnd l .flowMappingEnd rest
  else if x = ',' then comma l rest
  else if x = '-' ∧ atGap rest then blockItem l c rest
  else if x = '?' ∧ (inFlow ∨ atGap rest) then explicitKey l c rest
  else if x = ':' ∧ (inFlow ∨ atGap rest) then colon l c rest
  else if x = '*' then content l c ((readAnchor rest).map fun (name, left) => (.aliasOf name, left))
  else if x = '&' then content l c ((readAnchor rest).map fun (name, left) => (.anchor name, left))
  else if x = '!' then content l c (readTag (x :: rest))
  else if x = '|' ∧ !inFlow then block l false rest
  else if x = '>' ∧ !inFlow then block l true rest
  else if x = '\'' ∨ x = '"' then
    content l c ((readQuoted (x == '"') rest).map (scalarToken false))
  else if startsPlain inFlow x rest then
    let (text, left) := readPlain inFlow l.least .none (x :: rest)
    content l c (.ok (scalarToken true (.ofChars text, left)))
  else .error .malformed

end Layout

/-- How many characters of spaces, comments and line breaks come first, and whether there is a line
break among them. -/
def gap (comment : Bool) : List Char → Nat × Bool
  | [] => (0, false)
  | c :: rest =>
    if isBreak c then ((gap false rest).1 + 1, true)
    else if comment || c == ' ' || c == '#' then
      let (n, broke) := gap (comment || c == '#') rest
      (n + 1, broke)
    else (0, false)

/-- The tokens that are given out when the text after a place is at fault. -/
def Layout.released (l : Layout) (c : Cursor) : Array Token :=
  match l.forgetStale c with
  | .ok l => l.tokens.extract 0 (l.spots.foldl (fun n s => min n s.token) l.tokens.size)
  | .error _ => #[]

/-- Reads the next token after a place, where the source may end at a fault. At the end there is no
place to go on from. -/
def Layout.next (fault : Option Error) (l : Layout) (c : Cursor) :
    Except Error (Layout × Option Cursor) := do
  let (n, broke) := gap false c.rest
  let here := c.advance n
  if here.rest.isEmpty then
    if let some e := fault then throw e
  let l := if broke ∧ l.flow = 0 then { l with keyAllowed := true } else l
  let l := (← l.forgetStale here).unwind here.column
  match here.rest with
  | [] => return (← l.unwindAll.forgetHere, none)
  | x :: rest =>
    let (l, left) ← (l.readToken here x rest).mapError fun e =>
      if e = .unfinished then fault.getD e else e
    if left.isEmpty then
      if let some e := fault then throw e
    return (l, some (here.goTo left))

structure Tokens where
  list : List Token
  fault : Option Error

def tokensFrom (fault : Option Error) (l : Layout) (c : Cursor) : Tokens :=
  match l.next fault c with
  | .error e => ⟨(l.released c).toList, some e⟩
  | .ok (l, none) => ⟨l.tokens.toList, none⟩
  | .ok (l, some next) =>
    if _ : next.rest.length < c.rest.length then tokensFrom fault l next
    else ⟨l.tokens.toList, some .malformed⟩
termination_by c.rest.length

def Tokens.ofSource (s : Source) : Tokens :=
  tokensFrom s.fault {}
    { rest := if s.text.head? = some byteOrderMark then s.text.drop 1 else s.text }

end SchemaBindings.Yaml
