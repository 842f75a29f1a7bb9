import SchemaBindings.Yaml.Error
import SchemaBindings.Yaml.Source

/-!
The three forms of scalars: plain, between quotes, and in an indented block. Each reader takes the
text from where the scalar starts and gives what it denotes with the text that is left.
-/

namespace SchemaBindings.Yaml

set_option autoImplicit false

open Text (Codes)

inductive PlainGap
  | none
  /-- Blanks, and the text before them. -/
  | blanks (before : List Char) (held : List Char)
  /-- Line breaks, the column after the last, and the text before them. -/
  | breaks (before : List Char) (first : Char) (others : List Char) (column : Nat)

namespace PlainGap

def text : PlainGap → List Char
  | none => []
  | blanks _ held => held
  | breaks _ first others _ => foldBreaks first others

/-- Where the scalar ends when no word follows the gap. -/
def start (cs : List Char) : PlainGap → List Char
  | none => cs
  | blanks before _ => before
  | breaks before .. => before

def addBlank (cs : List Char) (c : Char) : PlainGap → PlainGap
  | none => blanks cs [c]
  | blanks before held => blanks before (held ++ [c])
  | breaks before first others column => breaks before first others (column + 1)

def addBreak (cs : List Char) (b : Char) : PlainGap → PlainGap
  | none => breaks cs b [] 0
  | blanks before _ => breaks before b [] 0
  | breaks before first others _ => breaks before first (others ++ [b]) 0

def allows (inFlow : Bool) (indent : Nat) (c : Char) : PlainGap → Bool
  | none => true
  | blanks .. => c != '#'
  | breaks _ _ _ column => c != '#' && (inFlow || indent ≤ column)

end PlainGap

def isFlowMark (c : Char) : Bool := [',', '[', ']', '\x7b', '\x7d'].contains c

def endsPlain (inFlow : Bool) (c : Char) (rest : List Char) : Bool :=
  c == '\t'
    || (c == ':' && (atGap rest || (inFlow && endsOr isFlowMark rest)))
    || (inFlow && (c == '?' || isFlowMark c))

/-- Reads words with gaps between them. Lines after the first are indented, except between brackets. -/
def readPlain (inFlow : Bool) (indent : Nat) (gap : PlainGap) :
    List Char → List Char × List Char
  | [] => ([], gap.start [])
  | c :: rest =>
    if c = ' ' then readPlain inFlow indent (gap.addBlank (c :: rest) c) rest
    else match breakOf? c with
      | some b =>
        let gap := gap.addBreak (c :: rest) b
        if atDocumentMark rest then ([], gap.start rest) else readPlain inFlow indent gap rest
      | none =>
        if endsPlain inFlow c rest || !gap.allows inFlow indent c then ([], gap.start (c :: rest))
        else
          let (text, left) := readPlain inFlow indent .none rest
          (gap.text ++ c :: text, left)

inductive QuotedPiece
  | code (n : Nat)
  | blank (c : Char)
  | lineBreak (b : Char)
  /-- A line break after a backslash. -/
  | joint

inductive QuotedGap
  | none
  | blanks (held : List Char)
  | breaks (first : Char) (others : List Char)
  | joint (others : List Char)

def QuotedGap.text : QuotedGap → Codes
  | none => []
  | blanks held => .ofChars held
  | breaks first others => .ofChars (foldBreaks first others)
  | joint others => .ofChars others

/-- Blanks around line breaks are dropped, and the breaks folded. -/
def joinPieces (gap : QuotedGap) : List QuotedPiece → Codes
  | [] => gap.text
  | .code n :: rest => gap.text ++ n :: joinPieces .none rest
  | .blank c :: rest =>
    joinPieces (match gap with
      | .none => .blanks [c]
      | .blanks held => .blanks (held ++ [c])
      | gap => gap) rest
  | .lineBreak b :: rest =>
    joinPieces (match gap with
      | .none | .blanks _ => .breaks b []
      | .breaks first others => .breaks first (others ++ [b])
      | .joint others => .joint (others ++ [b])) rest
  | .joint :: rest => gap.text ++ joinPieces (.joint []) rest

def escapes : List (Char × Char) :=
  [('0', '\x00'), ('a', '\x07'), ('b', '\x08'), ('t', '\t'), ('\t', '\t'), ('n', '\n'), ('v', '\x0b'),
    ('f', '\x0c'), ('r', '\r'), ('e', '\x1b'), (' ', ' '), ('"', '"'), ('\\', '\\'), ('/', '/'),
    ('N', '\u0085'), ('_', '\u00a0'), ('L', '\u2028'), ('P', '\u2029')]

def codeLengths : List (Char × Nat) := [('x', 2), ('u', 4), ('U', 8)]

def coded (digits : List Char) (length : Nat) : Except Error Nat :=
  match hexNumber? digits with
  | some code =>
    if digits.length ≠ length then .error .unfinished
    else if code < 0x110000 then .ok code
    else .error (.noCharacter code)
  | none => .error .malformed

def single (c : Char) : QuotedPiece :=
  if isSpaceOrTab c then .blank c else match breakOf? c with
    | some b => .lineBreak b
    | none => .code c.toNat

/-- The pieces up to the closing quote, and the text after it. The first `taken` characters are passed
over. A document cannot end between quotes. -/
def quotedPieces (double : Bool) : Nat → List Char → Except Error (List QuotedPiece × List Char)
  | _, [] => .error .unfinished
  | taken + 1, _ :: rest => quotedPieces double taken rest
  | 0, c :: rest =>
    let piece (p : QuotedPiece) (taken : Nat) := do
      let (pieces, left) ← quotedPieces double taken rest
      return (p :: pieces, left)
    if isBreak c && atDocumentMark rest then .error .malformed
    else if double then
      if c = '"' then .ok ([], rest)
      else if c = '\\' then
        match rest with
        | [] => .error .unfinished
        | e :: more =>
          match escapes.lookup e, codeLengths.lookup e with
          | some d, _ => piece (.code d.toNat) 1
          | none, some n => do piece (.code (← coded (more.take n) n)) (n + 1)
          | none, none =>
            if isBreak e && !atDocumentMark more then piece .joint 1 else .error .malformed
      else piece (single c) 0
    else if c = '\'' then
      if rest.head? = some '\'' then piece (.code c.toNat) 1 else .ok ([], rest)
    else piece (single c) 0

def readQuoted (double : Bool) (cs : List Char) : Except Error (Codes × List Char) := do
  let (pieces, left) ← quotedPieces double 0 cs
  return (joinPieces .none pieces, left)

inductive Chomp
  | strip
  | clip
  | keep
  deriving DecidableEq, Repr

structure Line where
  content : List Char
  /-- Missing at the end of the text. -/
  stop : Option Char
  deriving DecidableEq, Repr

def lines : List Char → List Line
  | [] => []
  | c :: rest =>
    match breakOf? c, lines rest with
    | some b, ls => ⟨[], some b⟩ :: ls
    | none, l :: ls => ⟨c :: l.content, l.stop⟩ :: ls
    | none, [] => [⟨[c], none⟩]

namespace Line

def spaces (l : Line) : Nat := (l.content.takeWhile (· == ' ')).length

def length (l : Line) : Nat := l.content.length + if l.stop.isSome then 1 else 0

def isBlank (l : Line) : Bool := l.content.all (· == ' ')

def dedent (indent : Nat) (l : Line) : Line := ⟨l.content.drop (min indent l.spaces), l.stop⟩

def startsBlank (l : Line) : Bool :=
  match l.content with
  | c :: _ => isSpaceOrTab c
  | [] => false

end Line

/-- The indentation that the first line with a content and the blank lines before it show. -/
def shownIndent : List Line → Nat
  | [] => 0
  | l :: rest => if l.isBlank then max l.spaces (shownIndent rest) else l.spaces

/-- The lines of a block: indented ones, and those with too few characters to be. -/
def blockLines (indent : Nat) (ls : List Line) : List Line :=
  ls.takeWhile fun l => indent ≤ l.spaces || (l.isBlank && l.stop.isSome)

def betweenLines (folded : Bool) (last : Line) (breaks : List Char) (next : Line) : List Char :=
  if folded && last.stop == some '\n' && !last.startsBlank && !next.startsBlank then
    if breaks.isEmpty then [' '] else breaks
  else last.stop.toList ++ breaks

def joinLines (folded : Bool) (chomp : Chomp) (last : Option Line) (breaks : List Char) :
    List Line → List Char
  | [] =>
    let stop := (last.bind Line.stop).toList
    match chomp with
    | .strip => []
    | .clip => stop
    | .keep => stop ++ breaks
  | l :: rest =>
    if l.content.isEmpty then joinLines folded chomp last (breaks ++ l.stop.toList) rest
    else
      (match last with
        | some p => betweenLines folded p breaks l
        | none => breaks)
        ++ l.content ++ joinLines folded chomp (some l) [] rest

def readBlockHeader (cs : List Char) : Except Error (Chomp × Option Nat × List Char) :=
  let chomp? : Char → Option Chomp
    | '+' => some .keep
    | '-' => some .strip
    | _ => none
  let indent? (c : Char) : Option Nat := if c.isDigit then some (c.toNat - '0'.toNat) else none
  let (chomp, indent, rest) : Option Chomp × Option Nat × List Char := match cs with
    | a :: b :: rest => match chomp? a, indent? a, chomp? b, indent? b with
      | some k, _, _, some n => (some k, some n, rest)
      | some k, _, _, none => (some k, none, b :: rest)
      | none, some n, some k, _ => (some k, some n, rest)
      | none, some n, none, _ => (none, some n, b :: rest)
      | none, none, _, _ => (none, none, cs)
    | [a] => match chomp? a, indent? a with
      | some k, _ => (some k, none, [])
      | none, some n => (none, some n, [])
      | none, none => (none, none, cs)
    | [] => (none, none, [])
  if indent = some 0 ∨ !atSpaceOrLineEnd rest then .error .malformed
  else .ok (chomp.getD .clip, indent, rest)

def dropLineRest (cs : List Char) : Except Error (List Char) :=
  let cs := cs.dropWhile (· == ' ')
  let cs := if cs.head? = some '#' then cs.dropWhile (!isBreak ·) else cs
  if atLineEnd cs then .ok (cs.drop 1) else .error .malformed

def readBlock (folded : Bool) (least : Nat) (cs : List Char) :
    Except Error (List Char × List Char) := do
  let (chomp, shown, rest) ← readBlockHeader cs
  let body ← dropLineRest rest
  let ls := lines body
  let indent := match shown with
    | some n => least + n - 1
    | none => max least (shownIndent ls)
  let held := blockLines indent ls
  return (joinLines folded chomp none [] (held.map (Line.dedent indent)),
    body.drop ((held.map Line.length).foldr (· + ·) 0))

end SchemaBindings.Yaml
