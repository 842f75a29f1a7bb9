import SchemaBindings.Text.Category

/-!
Taking elements of a class off the ends of a list, and cutting a list at them; the lists are texts, for
the most part. Reading a text file turns every carriage return, with the line feed after it if there is
one, into a line feed.
-/

namespace SchemaBindings.Text

set_option autoImplicit false

def trimEndOf {α : Type} (p : α → Bool) (cs : List α) : List α :=
  (cs.reverse.dropWhile p).reverse

def trimOf {α : Type} (p : α → Bool) (cs : List α) : List α :=
  trimEndOf p (cs.dropWhile p)

def trimEnd : List Char → List Char := trimEndOf isBlank

def trim : List Char → List Char := trimOf isBlank

/-- The pieces between the elements of a class, empty ones included: always at least one. -/
def pieces {α : Type} (p : α → Bool) : List α → List (List α)
  | [] => [[]]
  | c :: rest =>
    match pieces p rest with
    | [] => [[]]
    | piece :: more => if p c then [] :: piece :: more else (c :: piece) :: more

def trimString (s : String) : String := String.ofList (trim s.toList)

def splitAtCommas (s : String) : List String :=
  (pieces (· == ',') s.toList).map String.ofList

/-- The pieces between commas without blanks around them, blank ones left out. -/
def commaList (s : String) : List String :=
  ((splitAtCommas s).map trimString).filter (!·.isEmpty)

@[simp] theorem pieces_nil {α : Type} (p : α → Bool) : pieces p [] = [[]] := rfl

theorem pieces_ne_nil {α : Type} (p : α → Bool) (cs : List α) : pieces p cs ≠ [] := by
  cases cs with
  | nil => simp
  | cons c rest =>
    cases h : pieces p rest with
    | nil => simp [pieces, h]
    | cons piece more =>
      simp only [pieces, h]
      split <;> simp

@[simp] theorem trimOf_nil {α : Type} (p : α → Bool) : trimOf p [] = [] := rfl

@[simp] theorem trim_nil : trim [] = [] := rfl

def unifyNewlines : List Char → List Char
  | [] => []
  | '\r' :: '\n' :: rest => '\n' :: unifyNewlines rest
  | '\r' :: rest => '\n' :: unifyNewlines rest
  | c :: rest => c :: unifyNewlines rest

theorem unifyNewlines_of_not_mem {cs : List Char} (h : '\r' ∉ cs) : unifyNewlines cs = cs := by
  fun_induction unifyNewlines cs with
  | case1 => rfl
  | case2 rest => simp at h
  | case3 rest => simp at h
  | case4 c rest _ _ ih => simp_all

theorem not_mem_unifyNewlines (cs : List Char) : '\r' ∉ unifyNewlines cs := by
  fun_induction unifyNewlines cs with
  | case1 => simp
  | case2 rest ih => simpa using ih
  | case3 rest _ ih => simpa using ih
  | case4 c rest _ h ih => simpa [ih] using fun e => h e.symm

end SchemaBindings.Text
