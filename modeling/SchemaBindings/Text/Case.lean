import SchemaBindings.Text.CaseTable

/-!
Small and capital forms of a text. Two texts are the same ignoring case when their small forms are
equal. A capital sigma at the end of a word has a small form of its own, so `lower` works on a whole
text and not character by character; every other character has one form wherever it stands.
-/

namespace SchemaBindings.Text

set_option autoImplicit false

def isCapital (c : Char) : Bool :=
  capitalRuns.any fun (first, last, step) =>
    first ≤ c.toNat && c.toNat ≤ last && (c.toNat - first) % step == 0

def lowerChar (c : Char) : List Char :=
  if c.toNat < 128 then [c.toLower]
  else if c = 'İ' then ['i', '\u0307']
  else [Char.ofNat (CaseRun.map lowerRuns c.toNat)]

def upperChar (c : Char) : List Char :=
  if c.toNat < 128 then [c.toUpper]
  else match upperSequences.lookup c.toNat with
    | some forms => forms.map Char.ofNat
    | none => [Char.ofNat (CaseRun.map upperRuns c.toNat)]

/-- A small letter matches its other case and the characters that fold to it: the long `ſ`, the Kelvin
sign and the Turkish forms of `i`. -/
def matchesLetter (key c : Char) : Bool :=
  c.toLower == key || (key == 's' && c == 'ſ') || (key == 'k' && c == '\u212a')
    || (key == 'i' && (c == 'İ' || c == 'ı'))

def isCaseIgnorable (c : Char) : Bool := caseIgnorableRanges.has c.toNat

def isCased (c : Char) : Bool := casedRanges.has c.toNat

/-- Whether the next character that the sigma rule counts is a letter with case. -/
def casedAhead (rest : List Char) : Bool :=
  ((rest.dropWhile isCaseIgnorable).head?.map isCased).getD false

/-- `cased` says whether the last counted character before the text is a letter with case. -/
def lowerFrom (cased : Bool) : List Char → List Char
  | [] => []
  | c :: rest =>
    (if c = 'Σ' then [if cased && !casedAhead rest then 'ς' else 'σ'] else lowerChar c)
      ++ lowerFrom (if isCaseIgnorable c then cased else isCased c) rest

def lowerChars (cs : List Char) : List Char := lowerFrom false cs

def upperChars (cs : List Char) : List Char := cs.flatMap upperChar

def lower (s : String) : String := String.ofList (lowerChars s.toList)

def upper (s : String) : String := String.ofList (upperChars s.toList)

def sameIgnoringCase (a b : String) : Bool := lower a == lower b

@[simp] theorem sameIgnoringCase_self (a : String) : sameIgnoringCase a a := by
  simp [sameIgnoringCase]

theorem sameIgnoringCase_comm (a b : String) : sameIgnoringCase a b = sameIgnoringCase b a := by
  simp [sameIgnoringCase, Bool.beq_comm]

@[simp] theorem upperChars_append (a b : List Char) :
    upperChars (a ++ b) = upperChars a ++ upperChars b := by
  simp [upperChars]

end SchemaBindings.Text
