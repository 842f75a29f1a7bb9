import SchemaBindings.Proofs.Code.EnumMembers
import SchemaBindings.Proofs.Text.Capitals

/-!
The names that are made of the texts of a seed. A name is never empty, and no digit comes first in it. It
keeps all numbers of its text, though, and not only the decimal digits, so that a fraction or a
superscript makes it a name that neither C# nor TypeScript takes; and it may be a word that C# has for
itself.
-/

namespace SchemaBindings

set_option autoImplicit false

namespace Text

/-- Numbers that are no decimal digits: general categories Nl and No. -/
def isOtherNumber (c : Char) : Bool := otherDigitRanges.has c.toNat || otherNumberRanges.has c.toNat

/-- General category Nl, the numbers that are letters, such as Roman numerals. -/
def letterNumberRanges : Ranges :=
  [(0x16EE, 0x16F0), (0x2160, 0x2182), (0x2185, 0x2188), (0x3007, 0x3007), (0x3021, 0x3029),
   (0x3038, 0x303A), (0xA6E6, 0xA6EF), (0x10140, 0x10174), (0x10341, 0x10341), (0x1034A, 0x1034A),
   (0x103D1, 0x103D5), (0x12400, 0x1246E)]

def isLetterNumber (c : Char) : Bool := letterNumberRanges.has c.toNat

theorem letterRanges_apart : ∀ range ∈ letterRanges,
    (otherDigitRanges.misses range.1 range.2 && otherNumberRanges.misses range.1 range.2) = true := by
  decide +kernel

theorem decimalZeros_apart : ∀ first ∈ decimalZeros,
    (otherDigitRanges.misses first (first + 9) && otherNumberRanges.misses first (first + 9)) = true := by
  decide +kernel

theorem not_isOtherNumber_of_misses {first last : Nat} {c : Char}
    (h : (otherDigitRanges.misses first last && otherNumberRanges.misses first last) = true)
    (hfirst : first ≤ c.toNat) (hlast : c.toNat ≤ last) : isOtherNumber c = false := by
  rw [Bool.and_eq_true] at h
  unfold isOtherNumber
  rw [Ranges.has_of_misses h.1 hfirst hlast, Ranges.has_of_misses h.2 hfirst hlast]
  rfl

theorem not_isOtherNumber_of_isLetter {c : Char} (h : isLetter c = true) : isOtherNumber c = false := by
  obtain ⟨range, hmem, hfirst, hlast⟩ := Script.exists_range_of_has h
  exact not_isOtherNumber_of_misses (letterRanges_apart range hmem) hfirst hlast

theorem not_isOtherNumber_of_isDecimal {c : Char} (h : isDecimal c = true) : isOtherNumber c = false := by
  unfold isDecimal decimalValue? at h
  rw [Option.isSome_map, List.find?_isSome] at h
  obtain ⟨first, hmem, hc⟩ := h
  rw [Bool.and_eq_true, decide_eq_true_eq, decide_eq_true_eq] at hc
  apply not_isOtherNumber_of_misses (decimalZeros_apart first hmem) hc.1
  omega

/-- Letters, decimal digits and underscores. -/
def isPlain (c : Char) : Bool := isLetter c || isDecimal c || c == '_'

/-- A character of a name is plain unless it is a number of another kind. -/
theorem isPlain_of_isWordChar {c : Char} (h : isWordChar c = true) : isPlain c = !isOtherNumber c := by
  by_cases hnumber : isOtherNumber c = true
  · have hletter : isLetter c ≠ true := by
      intro hletter
      rw [not_isOtherNumber_of_isLetter hletter] at hnumber
      cases hnumber
    have hdecimal : isDecimal c ≠ true := by
      intro hdecimal
      rw [not_isOtherNumber_of_isDecimal hdecimal] at hnumber
      cases hnumber
    have hmark : c ≠ '_' := by
      rintro rfl
      revert hnumber
      decide
    rw [hnumber, isPlain, Bool.eq_false_iff.2 hletter, Bool.eq_false_iff.2 hdecimal, beq_false_of_ne hmark]
    rfl
  · have hnot := Bool.eq_false_iff.2 hnumber
    rw [hnot]
    unfold isWordChar isAlphanumeric isDigit at h
    unfold isOtherNumber at hnot
    rw [Bool.or_eq_false_iff] at hnot
    rw [hnot.1, hnot.2, Bool.or_false, Bool.or_false, Bool.or_comm] at h
    exact h

end Text

def Seed.systemName? (s : Seed) (t : Table) (row : Row) : Option String :=
  row.cell? (s.systemNameColumn? t.tableName)

namespace Code

open Text

/-- What a name keeps of a text. -/
def keptChars (text : Option String) : List Char := (text.getD "").toList.filter isWordChar

/-- The name that the kept characters make. -/
def spelled : List Char → List Char
  | [] => placeholder.toList
  | c :: rest => if isDigit c then '_' :: c :: rest else c :: rest

theorem spelled_of_isDigit {c : Char} (h : isDigit c = true) (rest : List Char) :
    spelled (c :: rest) = '_' :: c :: rest := if_pos h

theorem spelled_of_not_isDigit {c : Char} (h : isDigit c = false) (rest : List Char) :
    spelled (c :: rest) = c :: rest := if_neg (Bool.eq_false_iff.1 h)

theorem toList_identifier (text : Option String) : (identifier text).toList = spelled (keptChars text) := by
  unfold identifier keptChars
  simp only
  generalize ((text.getD "").toList).filter isWordChar = kept
  cases kept with
  | nil => rfl
  | cons c rest =>
    simp only [spelled]
    split <;> exact String.toList_ofList

theorem head?_spelled (kept : List Char) : ∃ c ∈ (spelled kept).head?, isDigit c = false := by
  cases kept with
  | nil => exact ⟨'U', by decide, by decide⟩
  | cons c rest =>
    cases hc : isDigit c with
    | true =>
      rw [spelled_of_isDigit hc]
      exact ⟨'_', rfl, by decide⟩
    | false =>
      rw [spelled_of_not_isDigit hc]
      exact ⟨c, rfl, hc⟩

theorem forall_mem_spelled {p : Char → Prop} (hmark : p '_')
    (hplaceholder : ∀ c ∈ placeholder.toList, p c)
    {kept : List Char} : (∀ c ∈ spelled kept, p c) ↔ ∀ c ∈ kept, p c := by
  cases kept with
  | nil => exact iff_of_true hplaceholder (List.forall_mem_nil _)
  | cons c rest =>
    cases hc : isDigit c with
    | true => rw [spelled_of_isDigit hc, List.forall_mem_cons, and_iff_right hmark]
    | false => rw [spelled_of_not_isDigit hc]

theorem isWordChar_of_mem_identifier {text : Option String} {c : Char} (hc : c ∈ (identifier text).toList) :
    isWordChar c = true := by
  rw [toList_identifier] at hc
  refine (forall_mem_spelled (p := fun c => isWordChar c = true) ?_ ?_).2 ?_ c hc
  · decide
  · decide
  · intro d hd
    exact (List.mem_filter.1 hd).2

/-- Of the characters that names are made of, those that C# takes in an identifier. TypeScript takes them
too. -/
def isIdentifierChar (c : Char) : Bool := isPlain c || isLetterNumber c

/-- The words that C# has for itself. -/
def reservedWords : List String :=
  ["abstract", "as", "base", "bool", "break", "byte", "case", "catch", "char", "checked", "class",
   "const", "continue", "decimal", "default", "delegate", "do", "double", "else", "enum", "event",
   "explicit", "extern", "false", "finally", "fixed", "float", "for", "foreach", "goto", "if",
   "implicit", "in", "int", "interface", "internal", "is", "lock", "long", "namespace", "new", "null",
   "object", "operator", "out", "override", "params", "private", "protected", "public", "readonly",
   "ref", "return", "sbyte", "sealed", "short", "sizeof", "stackalloc", "static", "string", "struct",
   "switch", "this", "throw", "true", "try", "typeof", "uint", "ulong", "unchecked", "unsafe",
   "ushort", "using", "virtual", "void", "volatile", "while"]

/-- The name is an identifier in C# and in TypeScript. -/
structure IsIdentifier (name : String) : Prop where
  start : ∃ c ∈ name.toList.head?, isDecimal c = false
  chars : ∀ c ∈ name.toList, isIdentifierChar c = true
  free : name ∉ reservedWords

theorem head?_reservedWords :
    ∀ word ∈ reservedWords, ∀ c ∈ word.toList.head?, isDigit c = false ∧ c ≠ '_' := by
  decide +kernel

section
variable {text : Option String}

theorem isWordChar_of_isOtherNumber {c : Char} (h : isOtherNumber c = true) : isWordChar c = true := by
  apply isWordChar_of_isAlphanumeric
  unfold isOtherNumber at h
  unfold isAlphanumeric isDigit
  rw [Bool.or_eq_true] at h
  rcases h with hdigit | hnumber
  · rw [hdigit, Bool.or_true, Bool.or_true, Bool.true_or]
  · rw [hnumber, Bool.or_true]

/-- What holds of every kept character that is no other number is a matter of the other numbers of the
text. -/
theorem forall_mem_keptChars {p : Char → Prop} {q : Char → Prop}
    (h : ∀ c, isWordChar c = true → (p c ↔ (isOtherNumber c = true → q c))) :
    (∀ c ∈ keptChars text, p c) ↔ ∀ c ∈ (text.getD "").toList, isOtherNumber c = true → q c := by
  constructor
  · intro hkept c hc hnumber
    have hword := isWordChar_of_isOtherNumber hnumber
    exact (h c hword).1 (hkept c (List.mem_filter.2 ⟨hc, hword⟩)) hnumber
  · intro htext c hc
    obtain ⟨hmem, hword⟩ := List.mem_filter.1 hc
    exact (h c hword).2 (htext c hmem)

theorem isPlain_iff {c : Char} (h : isWordChar c = true) :
    isPlain c = true ↔ ¬ isOtherNumber c = true := by
  rw [isPlain_of_isWordChar h, Bool.not_eq_true', ← Bool.not_eq_true]

theorem isIdentifierChar_iff {c : Char} (h : isWordChar c = true) :
    isIdentifierChar c = true ↔ (isOtherNumber c = true → isLetterNumber c = true) := by
  unfold isIdentifierChar
  rw [Bool.or_eq_true, isPlain_iff h]
  constructor
  · rintro (hplain | hletter) hnumber
    · exact (hplain hnumber).elim
    · exact hletter
  · intro hletter
    by_cases hnumber : isOtherNumber c = true
    · exact .inr (hletter hnumber)
    · exact .inl hnumber

/-- A reserved word is the name of no text but those that keep just this word. -/
theorem identifier_mem_reservedWords :
    identifier text ∈ reservedWords ↔ String.ofList (keptChars text) ∈ reservedWords := by
  have hlist := toList_identifier text
  have hname : identifier text = String.ofList (spelled (keptChars text)) := by
    rw [← hlist, String.ofList_toList]
  rw [hname]
  cases keptChars text with
  | nil => decide +kernel
  | cons c rest =>
    cases hc : isDigit c with
    | true =>
      rw [spelled_of_isDigit hc]
      constructor
      · intro hmem
        have hhead := head?_reservedWords _ hmem '_' (by rw [String.toList_ofList]; rfl)
        exact (hhead.2 rfl).elim
      · intro hmem
        have hhead := head?_reservedWords _ hmem c (by rw [String.toList_ofList]; rfl)
        rw [hc] at hhead
        cases hhead.1
    | false => rw [spelled_of_not_isDigit hc]

end

/-- What is to be said of the name that a text gives. -/
structure IsNameOf (text : Option String) (name : String) : Prop where
  start : ∃ c ∈ name.toList.head?, isDigit c = false
  /-- The name has letters, decimal digits and underscores only if its text has no number of another kind. -/
  plain_iff : (∀ c ∈ name.toList, isPlain c = true) ↔
    ∀ c ∈ (text.getD "").toList, ¬ isOtherNumber c = true
  /-- The languages take some numbers more, and C# keeps its words for itself. -/
  identifier_iff : IsIdentifier name ↔
    (∀ c ∈ (text.getD "").toList, isOtherNumber c = true → isLetterNumber c = true) ∧
      String.ofList (keptChars text) ∉ reservedWords

theorem isNameOf_identifier (text : Option String) : IsNameOf text (identifier text) := by
  have hstart : ∃ c ∈ (identifier text).toList.head?, isDigit c = false := by
    rw [toList_identifier]
    exact head?_spelled _
  refine ⟨hstart, ?_, ?_⟩
  · rw [toList_identifier, forall_mem_spelled (by decide) (by decide)]
    exact forall_mem_keptChars fun c hc => isPlain_iff hc
  · have hchars : (∀ c ∈ (identifier text).toList, isIdentifierChar c = true) ↔
        ∀ c ∈ (text.getD "").toList, isOtherNumber c = true → isLetterNumber c = true := by
      rw [toList_identifier, forall_mem_spelled (by decide) (by decide)]
      exact forall_mem_keptChars fun c hc => isIdentifierChar_iff hc
    rw [← hchars, ← identifier_mem_reservedWords]
    constructor
    · intro h
      exact ⟨h.chars, h.free⟩
    · rintro ⟨h, hfree⟩
      obtain ⟨c, hc, hdigit⟩ := hstart
      unfold isDigit at hdigit
      exact ⟨⟨c, hc, (Bool.or_eq_false_iff.1 hdigit).1⟩, h, hfree⟩

/-- The members of both enumerations have names that the texts of their rows give, and each such name has
letters, decimal digits and underscores only, or is an identifier, on the conditions of `IsNameOf`. -/
theorem isNameOf_members (t : Table) (s : Seed) (nameSpace : String) (lookups tables : NameSet)
    (fallback : KeyFallback) :
    (∀ text : Option String, IsNameOf text (identifier text)) ∧
    (∀ binding, lookupBinding t s nameSpace lookups tables fallback = .ok binding →
      ∃ members, EnumLayout.csharp.Holds t.tableName members binding ∧
        List.Forall₂ (fun row m => IsNameOf (s.systemName? t row) m.1)
          s.matchingRows members) ∧
    (∀ script, enumModule t s fallback = .ok script →
      ∃ members, EnumLayout.typeScript.Holds t.tableName members script ∧
        List.Forall₂ (fun row m => IsNameOf (s.systemName? t row) m.1)
          s.matchingRows members) := by
  have hrows : ∀ {rows : List Row} {members : List (String × String)},
      List.Forall₂ (IsMember t s fallback) rows members →
      List.Forall₂ (fun row m => IsNameOf (s.systemName? t row) m.1) rows members := by
    intro rows members h
    apply h.imp
    intro row m hm
    rw [hm.name]
    exact isNameOf_identifier _
  refine ⟨isNameOf_identifier, ?_, ?_⟩
  · intro binding hbinding
    obtain ⟨members, hholds, hmembers⟩ := members_lookupBinding hbinding
    exact ⟨members, hholds, hrows hmembers⟩
  · intro script hscript
    obtain ⟨members, hholds, hmembers⟩ := members_enumModule hscript
    exact ⟨members, hholds, hrows hmembers⟩

/-- Names with a digit in front, with a Roman numeral, with a fraction, and one that C# has for itself. -/
def sizeSeed : Seed where
  schemaName := "dbo"
  tableName := "Size"
  columnNames := ["SizeID", "SizeName"]
  rows := [["1", "½"], ["2", "3D Model"], ["3", "Part Ⅷ"], ["4", "class"], ["5", "x²"]]

def sizeTable : Table where
  schemaName := "dbo"
  tableName := "Size"
  columns := [{ name := "SizeID", sqlType := "int" }]

theorem isNameOf_members_sizeSeed : ∃ binding script,
    lookupBinding sizeTable sizeSeed "Acme" .empty .empty .firstColumn = .ok binding ∧
    enumModule sizeTable sizeSeed .firstColumn = .ok script ∧
    (∃ members, EnumLayout.csharp.Holds sizeTable.tableName members binding ∧
      List.Forall₂ (fun row m => IsNameOf (sizeSeed.systemName? sizeTable row) m.1)
        sizeSeed.matchingRows members) ∧
    (∃ members, EnumLayout.typeScript.Holds sizeTable.tableName members script ∧
      List.Forall₂ (fun row m => IsNameOf (sizeSeed.systemName? sizeTable row) m.1)
        sizeSeed.matchingRows members) := by
  obtain ⟨binding, hbinding⟩ :
      ∃ binding, lookupBinding sizeTable sizeSeed "Acme" .empty .empty .firstColumn = .ok binding :=
    exists_eq_ok_of_isOk (by decide +kernel)
  obtain ⟨script, hscript⟩ : ∃ script, enumModule sizeTable sizeSeed .firstColumn = .ok script :=
    exists_eq_ok_of_isOk (by decide +kernel)
  obtain ⟨_, hcsharp, htypeScript⟩ :=
    isNameOf_members sizeTable sizeSeed "Acme" .empty .empty .firstColumn
  exact ⟨binding, script, hbinding, hscript, hcsharp binding hbinding, htypeScript script hscript⟩

/-- A fraction is a name of its own, and a member of the enumeration has it. -/
theorem identifier_fraction :
    identifier (some "½") = "½" ∧ isPlain '½' = false ∧ ¬ IsIdentifier "½" ∧
    identifier (some "x²") = "x²" ∧ ¬ IsIdentifier "x²" ∧
      identifier (some "class") ∈ reservedWords ∧
    ∃ c entries, lookupClass sizeTable sizeSeed "Acme" .empty .empty .firstColumn = .ok c ∧
      "        ½ = 1," ∈ c.enumLines ∧
      enumEntries sizeTable sizeSeed .firstColumn = .ok entries ∧
      entries.map EnumEntry.name = ["½", "_3DModel", "PartⅧ", "class", "x²"] := by
  have hnot : ∀ {name : String} {c : Char}, c ∈ name.toList → isIdentifierChar c = false →
      ¬ IsIdentifier name := by
    intro name c hmem hc h
    rw [h.chars c hmem] at hc
    cases hc
  have hclass : (lookupClass sizeTable sizeSeed "Acme" .empty .empty .firstColumn).map LookupClass.enumLines =
      .ok ["    public enum SizeEnum", "    \x7b", "        ½ = 1,", "        _3DModel = 2,",
        "        PartⅧ = 3,",
        "        class = 4,", "        x² = 5,", "    \x7d", ""] := by decide +kernel
  have hnames :
      (enumEntries sizeTable sizeSeed .firstColumn).map (fun entries => entries.map EnumEntry.name) =
      .ok ["½", "_3DModel", "PartⅧ", "class", "x²"] := by decide +kernel
  obtain ⟨c, hc, hlines⟩ := map_eq_ok.1 hclass
  obtain ⟨entries, hentries, hentryNames⟩ := map_eq_ok.1 hnames
  have hhalf : ¬ IsIdentifier "½" := hnot (c := '½') (by decide) (by decide +kernel)
  have hsquare : ¬ IsIdentifier "x²" := hnot (c := '²') (by decide) (by decide +kernel)
  refine ⟨by decide +kernel, by decide +kernel, hhalf, by decide +kernel, hsquare, by decide +kernel,
    c, entries, hc, ?_, hentries, hentryNames⟩
  rw [hlines]
  decide

end Code

end SchemaBindings
