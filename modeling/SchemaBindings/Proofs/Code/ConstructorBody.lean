import SchemaBindings.Proofs.Code.InstanceArguments
import SchemaBindings.Proofs.Text.Capitals

/-!
The constructor of a lookup class. It has one parameter for each column of the seed, named as the column
with the first letter small, and one line that assigns the property of the column from it. Within the
constructor a parameter hides a property of the same name. The line of a column whose name starts with a
small letter, or with no letter at all, therefore assigns the parameter to itself, and its property is
never set.
-/

namespace SchemaBindings.Code

set_option autoImplicit false

open Text (lower lowerChar)

/-- The first character has no other small form. The empty name counts as well. -/
def StartsSmall (name : String) : Prop := ∀ c ∈ name.toList.head?, lowerChar c = [c]

instance (name : String) : Decidable (StartsSmall name) :=
  inferInstanceAs (Decidable (∀ c ∈ name.toList.head?, lowerChar c = [c]))

theorem toList_lowerCamel {name : String} {c : Char} {rest : List Char} (h : name.toList = c :: rest) :
    (lowerCamel name).toList = lowerChar c ++ rest := by
  rw [lowerCamel, h, String.toList_ofList]

theorem lowerCamel_eq_self_iff {name : String} : lowerCamel name = name ↔ StartsSmall name := by
  unfold StartsSmall
  cases hname : name.toList with
  | nil =>
    rw [String.toList_eq_nil_iff.1 hname]
    exact ⟨fun _ _ h => absurd h (Option.not_mem_none _), fun _ => rfl⟩
  | cons c rest =>
    rw [← String.toList_inj, toList_lowerCamel hname, hname, ← List.singleton_append,
      List.append_left_inj, List.singleton_append, List.head?_cons]
    constructor
    · rintro h _ ⟨⟩
      exact h
    · exact fun h => h c rfl

@[simp] theorem lower_lowerCamel (name : String) : lower (lowerCamel name) = lower name := by
  cases hname : name.toList with
  | nil =>
    rw [String.toList_eq_nil_iff.1 hname]
    rfl
  | cons c rest =>
    rw [lower, lower, toList_lowerCamel hname, hname]
    exact congrArg String.ofList (Text.lowerFrom_lowerChar_append c rest)

/-- What the names in the body of a constructor stand for. -/
structure Frame (α : Type) where
  /-- The values of the parameters; `none` if there is no parameter of the name. -/
  parameters : String → Option α
  properties : String → α

/-- The statement `target = source;`. -/
structure Assignment where
  target : String
  source : String
  deriving DecidableEq, Repr

def Assignment.line (a : Assignment) : String := "            " ++ a.target ++ " = " ++ a.source ++ ";"

def Parameter.assignment (p : Parameter) : Assignment := ⟨p.property, p.name⟩

namespace Frame
variable {α : Type}

/-- The value of a name: a parameter hides the property of its name. -/
def read (f : Frame α) (name : String) : α := (f.parameters name).getD (f.properties name)

def assign (f : Frame α) (a : Assignment) : Frame α :=
  match f.parameters a.target with
  | some _ => { f with parameters := Function.update f.parameters a.target (some (f.read a.source)) }
  | none => { f with properties := Function.update f.properties a.target (f.read a.source) }

def run (f : Frame α) (body : List Assignment) : Frame α := body.foldl assign f

/-- Nothing changes when a name is assigned to itself, whichever of the two it stands for. -/
theorem assign_self {f : Frame α} {a : Assignment} (h : a.target = a.source) : f.assign a = f := by
  unfold assign read
  rw [← h]
  split
  · rename_i value hvalue
    rw [hvalue, Option.getD_some, ← hvalue, Function.update_eq_self]
  · rename_i hnone
    rw [hnone, Option.getD_none, Function.update_eq_self]

theorem assign_property {f : Frame α} {a : Assignment} (h : f.parameters a.target = none) :
    f.assign a = { f with properties := Function.update f.properties a.target (f.read a.source) } := by
  unfold assign
  rw [h]

/-- The assignments change no parameter, except that they may assign it to itself. -/
def Spares (f : Frame α) (body : List Assignment) : Prop :=
  ∀ a ∈ body, a.target = a.source ∨ f.parameters a.target = none

theorem assign_parameters {f : Frame α} {a : Assignment}
    (h : a.target = a.source ∨ f.parameters a.target = none) :
    (f.assign a).parameters = f.parameters := by
  rcases h with hself | hproperty
  · rw [assign_self hself]
  · rw [assign_property hproperty]

theorem assign_properties_of_ne {f : Frame α} {a : Assignment} {name : String}
    (h : a.target = a.source ∨ f.parameters a.target = none) (hname : a.target = name → a.source = name) :
    (f.assign a).properties name = f.properties name := by
  by_cases hself : a.target = a.source
  · rw [assign_self hself]
  · have hother : name ≠ a.target := by
      rintro rfl
      exact hself (hname rfl).symm
    rw [assign_property (h.resolve_left hself)]
    exact Function.update_of_ne hother _ _

theorem Spares.tail {f : Frame α} {a : Assignment} {rest : List Assignment} (h : f.Spares (a :: rest)) :
    (f.assign a).Spares rest := by
  obtain ⟨ha, hrest⟩ := List.forall_mem_cons.1 h
  unfold Spares
  rw [assign_parameters ha]
  exact hrest

/-- A property that is assigned from itself only keeps its value. -/
theorem run_of_self {f : Frame α} {body : List Assignment} {name : String} (h : f.Spares body)
    (hname : ∀ a ∈ body, a.target = name → a.source = name) :
    (f.run body).properties name = f.properties name := by
  induction body generalizing f with
  | nil => rfl
  | cons a rest ih =>
    obtain ⟨hown, hothers⟩ := List.forall_mem_cons.1 hname
    exact (ih h.tail hothers).trans (assign_properties_of_ne (h a List.mem_cons_self) hown)

/-- A property with one assignment, from a parameter of another name, gets the value of the parameter. -/
theorem run_of_mem {f : Frame α} {body : List Assignment} {a : Assignment} {value : α} (h : f.Spares body)
    (hdistinct : (body.map Assignment.target).Nodup) (ha : a ∈ body) (hself : a.target ≠ a.source)
    (hvalue : f.parameters a.source = some value) : (f.run body).properties a.target = value := by
  induction body generalizing f with
  | nil => cases ha
  | cons b rest ih =>
    have hb := h b List.mem_cons_self
    rw [List.map_cons, List.nodup_cons] at hdistinct
    obtain ⟨hfresh, hdistinct⟩ := hdistinct
    rcases List.mem_cons.1 ha with rfl | ha
    · have hlater : ∀ b ∈ rest, b.target = a.target → b.source = a.target := by
        intro b hb hsame
        exact (hfresh (hsame ▸ List.mem_map_of_mem hb)).elim
      refine (run_of_self h.tail hlater).trans ?_
      rw [assign_property (hb.resolve_left hself)]
      simp only [Function.update_self, read, hvalue, Option.getD_some]
    · apply ih h.tail hdistinct ha
      rw [assign_parameters hb]
      exact hvalue

/-- At the call the parameters have the values that are passed for them, in their order. -/
def ofCall (names : List String) (values : List α) (initial : String → α) : Frame α :=
  ⟨fun name => values[names.idxOf name]?, initial⟩

section
variable {names : List String} {values : List α} {initial : String → α} {name : String}

theorem ofCall_parameters_of_not_mem (hlength : values.length = names.length) (h : name ∉ names) :
    (ofCall names values initial).parameters name = none := by
  apply List.getElem?_eq_none
  rw [hlength, List.idxOf_of_notMem h]

theorem ofCall_parameters_of_getElem? (h : names.Nodup) {k : Nat} (hk : names[k]? = some name) :
    (ofCall names values initial).parameters name = values[k]? := by
  obtain ⟨hlt, rfl⟩ := List.getElem?_eq_some_iff.1 hk
  unfold ofCall
  simp only [h.idxOf_getElem]

end

end Frame

namespace LookupClass

/-- The properties behind a call of the constructor with values for its parameters. -/
def construct {α : Type} (c : LookupClass) (initial : String → α) (values : List α) : String → α :=
  ((Frame.ofCall (c.parameters.map Parameter.name) values initial).run
    (c.parameters.map Parameter.assignment)).properties

/-- The constructor, and behind it the properties of the class. -/
def constructorBlock (c : LookupClass) : List String :=
  ["        protected " ++ c.name ++ "(" ++ c.parameterList ++ ")", "        \x7b"] ++
    c.parameters.map (fun p => p.assignment.line) ++ ["        \x7d", ""] ++
      c.parameters.flatMap c.propertyLines

theorem constructorBlock_infix (c : LookupClass) (header : List String) :
    c.constructorBlock <:+: c.lines header := by
  have hown : c.constructorBlock <:+: c.constructorLines ++ c.parameters.flatMap c.propertyLines :=
    ⟨c.constructorLines.take 3, [], List.append_nil _⟩
  unfold lines
  iterate 7 apply List.infix_append_of_infix_left
  rw [List.append_assoc]
  exact List.infix_append_of_infix_right hown

end LookupClass

/-- The parameters are told apart by their names, and so are the properties. A parameter hides a property
only if that is its own, and starts small. -/
structure LookupClass.Apart (c : LookupClass) : Prop where
  names : (c.parameters.map Parameter.name).Nodup
  properties : (c.parameters.map Parameter.property).Nodup
  hides_iff : ∀ p ∈ c.parameters, ∀ q ∈ c.parameters, p.name = q.property ↔
    p = q ∧ StartsSmall p.property

namespace LookupClass.Apart
variable {c : LookupClass}

theorem of_columns {s : Seed} (hs : s.DistinctColumns) {type : String → String}
    (hparameters : c.parameters = s.columnNames.map fun name => ⟨name, type name, lowerCamel name⟩) :
    c.Apart where
  names := by
    rw [hparameters, List.map_map]
    apply List.Nodup.of_map lower
    rw [List.map_map]
    exact (List.map_congr_left fun name _ => lower_lowerCamel name) ▸ hs
  properties := by
    rw [hparameters, List.map_map]
    exact List.Nodup.of_map lower (by rwa [List.map_map])
  hides_iff := by
    intro p hp q hq
    rw [hparameters] at hp hq
    obtain ⟨a, ha, rfl⟩ := List.mem_map.1 hp
    obtain ⟨b, hb, rfl⟩ := List.mem_map.1 hq
    constructor
    · intro (hname : lowerCamel a = b)
      have hlower : lower a = lower b := by rw [← hname, lower_lowerCamel]
      obtain rfl := List.inj_on_of_nodup_map hs ha hb hlower
      exact ⟨rfl, lowerCamel_eq_self_iff.1 hname⟩
    · rintro ⟨hsame, hsmall⟩
      obtain rfl : a = b := congrArg Parameter.property hsame
      exact lowerCamel_eq_self_iff.2 hsmall

section
variable {α : Type} {initial : String → α} {values : List α}

theorem spares (h : c.Apart) (hlength : values.length = c.parameters.length) :
    (Frame.ofCall (c.parameters.map Parameter.name) values initial).Spares
      (c.parameters.map Parameter.assignment) := by
  rintro _ ha
  obtain ⟨p, hp, rfl⟩ := List.mem_map.1 ha
  by_cases hself : p.name = p.property
  · exact .inl hself.symm
  refine .inr (Frame.ofCall_parameters_of_not_mem (by rwa [List.length_map]) ?_)
  intro hhidden
  obtain ⟨q, hq, hname⟩ := List.mem_map.1 hhidden
  obtain ⟨rfl, _⟩ := (h.hides_iff q hq p hp).1 hname
  exact hself hname

theorem construct_eq (h : c.Apart) (hlength : values.length = c.parameters.length) {k : Nat} {p : Parameter}
    {value : α} (hp : c.parameters[k]? = some p) (hvalue : values[k]? = some value) :
    c.construct initial values p.property = if StartsSmall p.property then initial p.property else value := by
  have hmem := List.mem_of_getElem? hp
  have hself := h.hides_iff p hmem p hmem
  split
  · rename_i hsmall
    apply Frame.run_of_self (h.spares hlength)
    intro a ha htarget
    obtain ⟨q, hq, rfl⟩ := List.mem_map.1 ha
    obtain rfl := List.inj_on_of_nodup_map h.properties hq hmem htarget
    exact hself.2 ⟨rfl, hsmall⟩
  · rename_i hlarge
    refine Frame.run_of_mem (a := p.assignment) (h.spares hlength) ?_ (List.mem_map_of_mem hmem) ?_ ?_
    · rw [List.map_map]
      exact h.properties
    · exact fun hname => hlarge (hself.1 hname.symm).2
    · rw [← hvalue]
      apply Frame.ofCall_parameters_of_getElem? h.names
      rw [List.getElem?_map, hp]
      rfl

theorem sets (h : c.Apart) (hlength : values.length = c.parameters.length) :
    c.parameters.map (fun p => c.construct initial values p.property) =
      List.zipWith (fun p value => if StartsSmall p.property then initial p.property else value)
        c.parameters values := by
  refine List.ext_getElem? fun k => ?_
  rw [List.getElem?_map, List.getElem?_zipWith]
  cases hp : c.parameters[k]? with
  | none => rfl
  | some p =>
    obtain ⟨value, hvalue⟩ : ∃ value, values[k]? = some value := by
      have hlt := (List.getElem?_eq_some_iff.1 hp).1
      rw [← hlength] at hlt
      exact ⟨_, List.getElem?_eq_getElem hlt⟩
    rw [hvalue, Option.map_some, h.construct_eq hlength hp hvalue]

end

end LookupClass.Apart

/-- What the constructor in the lines of a class does. -/
structure IsConstructor (c : LookupClass) (lines : List String) : Prop where
  block : c.constructorBlock <:+: lines
  apart : c.Apart
  /-- Each property gets the value of its own parameter, but one that starts small keeps its first value. -/
  sets : ∀ {α : Type} (initial : String → α) (values : List α), values.length = c.parameters.length →
    c.parameters.map (fun p => c.construct initial values p.property) =
      List.zipWith (fun p value => if StartsSmall p.property then initial p.property else value)
        c.parameters values

section
variable {t : Table} {s : Seed} {nameSpace : String} {lookups tables : NameSet} {fallback : KeyFallback}

/-- The constructor has a parameter of its own for each column, and sets all properties but those whose
names start small. -/
theorem lookupBinding_constructor {text : String} (hs : s.DistinctColumns)
    (h : lookupBinding t s nameSpace lookups tables fallback = .ok text) :
    ∃ c, lookupClass t s nameSpace lookups tables fallback = .ok c ∧
      text = fileText (c.lines (bindingHeader t)) ∧
      c.parameters = s.columnNames.map (fun name => ⟨name, seedColumnType t name, lowerCamel name⟩) ∧
      IsConstructor c (c.lines (bindingHeader t)) := by
  unfold lookupBinding at h
  obtain ⟨c, hclass, h⟩ := bind_eq_ok.1 h
  have hparameters := parameters_eq hclass
  have hapart := LookupClass.Apart.of_columns hs hparameters
  exact ⟨c, hclass, (Except.ok.inj h).symm, hparameters, c.constructorBlock_infix _, hapart,
    fun _ _ hlength => hapart.sets hlength⟩

end

theorem lookupBinding_constructor_toneSeed : toneSeed.DistinctColumns ∧ ∃ text c,
    lookupBinding toneTable toneSeed "Acme" .empty .empty .firstColumn = .ok text ∧
    lookupClass toneTable toneSeed "Acme" .empty .empty .firstColumn = .ok c ∧
    text = fileText (c.lines (bindingHeader toneTable)) ∧
    c.parameters.map Parameter.name = ["toneid", "toneName", "note", "rATE"] ∧
    IsConstructor c (c.lines (bindingHeader toneTable)) ∧
    ["toneid", "ToneName", "Note", "RATE"].map (c.construct (fun _ => "") ["1", "Dark", "none", "0.5"]) =
      ["", "Dark", "none", "0.5"] := by
  have hs : toneSeed.DistinctColumns := by decide +kernel
  obtain ⟨text, htext⟩ :
      ∃ text, lookupBinding toneTable toneSeed "Acme" .empty .empty .firstColumn = .ok text :=
    exists_eq_ok_of_isOk (by decide +kernel)
  obtain ⟨c, hclass, hlines, hparameters, hconstructor⟩ := lookupBinding_constructor hs htext
  have hproperties : c.parameters.map Parameter.property = ["toneid", "ToneName", "Note", "RATE"] := by
    rw [hparameters]
    decide
  have hsets := hconstructor.sets (fun _ => "") ["1", "Dark", "none", "0.5"] (by rw [hparameters]; rfl)
  refine ⟨hs, text, c, htext, hclass, hlines, ?_, hconstructor, ?_⟩
  · rw [hparameters]
    decide +kernel
  · rw [← hproperties, List.map_map]
    refine hsets.trans ?_
    rw [hparameters]
    decide +kernel

/-- A column whose name starts small is assigned to itself, and its property is not set. -/
theorem construct_toneid : ∃ c, lookupClass toneTable toneSeed "Acme" .empty .empty .firstColumn = .ok c ∧
    "            toneid = toneid;" ∈ c.constructorBlock ∧
    c.construct (fun _ => "unset") ["1", "Dark", "none", "0.5"] "toneid" = "unset" := by
  have hclass : (lookupClass toneTable toneSeed "Acme" .empty .empty .firstColumn).map (fun c =>
      (c.parameters.map fun p => p.assignment.line,
        c.construct (fun _ => "unset") ["1", "Dark", "none", "0.5"] "toneid")) =
      .ok (["            toneid = toneid;", "            ToneName = toneName;", "            Note = note;",
        "            RATE = rATE;"], "unset") := by
    decide +kernel
  obtain ⟨c, hc, h⟩ := map_eq_ok.1 hclass
  obtain ⟨hlines, hvalue⟩ := Prod.mk.inj h
  refine ⟨c, hc, ?_, hvalue⟩
  unfold LookupClass.constructorBlock
  rw [hlines]
  simp

end SchemaBindings.Code
