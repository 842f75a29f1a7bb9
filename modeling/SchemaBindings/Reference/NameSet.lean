import SchemaBindings.Text.Case

/-!
Sets of table names that are equal ignoring case. Each name keeps the spelling that was given first,
and the names are listed in the order of their small forms.
-/

namespace SchemaBindings

set_option autoImplicit false

structure NameSet where
  /-- The spellings, in the order in which they came. -/
  spellings : List String
  distinct : (spellings.map Text.lower).Nodup

namespace NameSet

def empty : NameSet := ⟨[], by simp⟩

def canonical? (s : NameSet) (name : String) : Option String :=
  s.spellings.find? fun n => Text.sameIgnoringCase n name

def contains (s : NameSet) (name : String) : Bool :=
  s.spellings.any fun n => Text.sameIgnoringCase n name

def size (s : NameSet) : Nat := s.spellings.length

def insert (s : NameSet) (name : String) : NameSet :=
  if h : s.contains name then s
  else ⟨s.spellings ++ [name], by
    have hd := s.distinct
    simp only [contains, List.any_eq_true, not_exists, not_and, Text.sameIgnoringCase,
      beq_iff_eq] at h
    simp only [List.map_append, List.map_cons, List.map_nil]
    rw [List.nodup_append]
    refine ⟨hd, by simp, ?_⟩
    intro a ha b hb
    obtain ⟨n, hn, rfl⟩ := List.mem_map.1 ha
    simp only [List.mem_singleton] at hb
    subst hb
    exact h n hn⟩

def ofList (names : List String) : NameSet := names.foldl insert empty

/-- The names in the order of their small forms. -/
def toList (s : NameSet) : List String :=
  s.spellings.mergeSort fun a b => decide (Text.lower a ≤ Text.lower b)

@[simp] theorem spellings_empty : empty.spellings = [] := rfl

@[simp] theorem mem_toList {s : NameSet} {name : String} :
    name ∈ s.toList ↔ name ∈ s.spellings := by
  simp [toList, List.mem_mergeSort]

@[simp] theorem length_toList (s : NameSet) : s.toList.length = s.size := by
  simp [toList, size]

theorem contains_iff {s : NameSet} {name : String} :
    s.contains name ↔ ∃ n ∈ s.spellings, Text.lower n = Text.lower name := by
  simp [contains, Text.sameIgnoringCase]

theorem contains_insert {s : NameSet} {name other : String} :
    (s.insert name).contains other ↔ s.contains other ∨ Text.lower name = Text.lower other := by
  unfold insert
  split
  · rename_i h
    constructor
    · exact .inl
    · rintro (h' | h')
      · exact h'
      · obtain ⟨n, hn, e⟩ := contains_iff.1 h
        exact contains_iff.2 ⟨n, hn, e.trans h'⟩
  · simp [contains, Text.sameIgnoringCase]

end NameSet

end SchemaBindings
