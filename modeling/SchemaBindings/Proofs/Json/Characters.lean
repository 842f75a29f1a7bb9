import SchemaBindings.Proofs.Json.Strings
import SchemaBindings.Proofs.Text.Returns

/-!
A document is written in printable ASCII and line feeds, whatever texts it holds.
-/

namespace SchemaBindings.Json

set_option autoImplicit false

open Text (forall_mem_toList_intercalate mem_toString_int)

/-- A document is made of these characters. -/
def IsPlain (c : Char) : Prop := c = '\n' ∨ 32 ≤ c.toNat ∧ c.toNat < 127

instance (c : Char) : Decidable (IsPlain c) := inferInstanceAs (Decidable (_ ∨ _))

theorem IsPlain.toNat_lt {c : Char} (h : IsPlain c) : c.toNat < 128 := by
  rcases h with rfl | h
  · decide
  · omega

theorem isPlain_hexDigit (n : Nat) : IsPlain (hexDigit (n % 16)) := by
  have hall : ∀ i : Fin 16, IsPlain (hexDigit i) := by decide
  exact hall ⟨n % 16, Nat.mod_lt n (by decide)⟩

theorem isPlain_unitEscapes {c d : Char} (h : d ∈ unitEscapes c) : IsPlain d := by
  obtain ⟨u, _, hd⟩ := List.mem_flatMap.1 h
  simp only [hex4, List.mem_cons, List.not_mem_nil, or_false] at hd
  rcases hd with rfl | rfl | rfl | rfl | rfl | rfl
  · decide
  · decide
  · exact isPlain_hexDigit _
  · exact isPlain_hexDigit _
  · exact isPlain_hexDigit _
  · exact isPlain_hexDigit _

theorem isPlain_escape {c d : Char} (h : d ∈ escape c) : IsPlain d := by
  rcases escape_cases c with ⟨e, he, _, hescape⟩ | ⟨hlow, hhigh, _, _, hescape⟩ | hescape
  · have hshort : ∀ e ∈ shortEscapes, IsPlain e := by decide
    rw [hescape, List.mem_cons, List.mem_singleton] at h
    rcases h with rfl | rfl
    · decide
    · exact hshort d he
  · rw [hescape, List.mem_singleton] at h
    exact .inr (h ▸ ⟨hlow, hhigh⟩)
  · exact isPlain_unitEscapes (hescape ▸ h)

theorem isPlain_quote {s : String} {c : Char} (h : c ∈ (quote s).toList) : IsPlain c := by
  unfold quote at h
  rw [String.toList_ofList, List.cons_append, List.mem_cons, List.mem_append, List.mem_singleton,
    List.mem_flatMap] at h
  rcases h with rfl | ⟨d, _, hd⟩ | rfl
  · decide
  · exact isPlain_escape hd
  · decide

def Plain (s : String) : Prop := ∀ c ∈ s.toList, IsPlain c

instance (s : String) : Decidable (Plain s) := inferInstanceAs (Decidable (∀ c ∈ s.toList, IsPlain c))

theorem plain_append {a b : String} : Plain (a ++ b) ↔ Plain a ∧ Plain b := by
  unfold Plain
  rw [String.toList_append, List.forall_mem_append]

theorem plain_quote (s : String) : Plain (quote s) := fun _ => isPlain_quote

theorem plain_toString_int (n : Int) : Plain (toString n) := by
  intro c hc
  rcases mem_toString_int hc with rfl | hdigit
  · decide
  · exact Text.forall_digit (by decide) hdigit

theorem plain_intercalate {sep : String} (hsep : Plain sep) {pieces : List String}
    (h : ∀ a ∈ pieces, Plain a) : Plain (sep.intercalate pieces) :=
  forall_mem_toList_intercalate hsep h

theorem plain_spaces (n : Nat) : Plain (String.ofList (List.replicate n ' ')) := by
  intro c hc
  rw [String.toList_ofList] at hc
  rw [(List.mem_replicate.1 hc).2]
  decide

theorem plain_block {opening closing : String} (ho : Plain opening) (hc : Plain closing) (depth : Nat)
    {entries : List String} (h : ∀ e ∈ entries, Plain e) :
    Plain (block opening closing depth entries) := by
  have hbreak : Plain "\n" := by decide
  unfold block
  split
  · exact plain_append.2 ⟨ho, hc⟩
  · have hmargin := plain_append.2 ⟨hbreak, plain_spaces (2 * (depth + 1))⟩
    have hentries := plain_intercalate (plain_append.2 ⟨(by decide : Plain ","), hmargin⟩) h
    simp only [plain_append, ho, hc, hmargin, hentries, hbreak, plain_spaces, and_true]

mutual

/-- A document is written in plain characters, whatever texts it holds. -/
theorem plain_indented (depth : Nat) : ∀ j : Json, Plain (indented depth j)
  | .null => by unfold indented; decide
  | .bool b => by unfold indented; cases b <;> decide
  | .int n => by unfold indented; exact plain_toString_int n
  | .decimal m e => by
    unfold indented decimalText
    exact plain_append.2 ⟨plain_append.2 ⟨plain_toString_int m, by decide⟩, plain_toString_int e⟩
  | .string s => by unfold indented; exact plain_quote s
  | .array items => by
    unfold indented
    exact plain_block (by decide) (by decide) depth (plain_indentedItems (depth + 1) items)
  | .object members => by
    unfold indented
    exact plain_block (by decide) (by decide) depth (plain_indentedMembers (depth + 1) members)

theorem plain_indentedItems (depth : Nat) : ∀ items : List Json,
    ∀ e ∈ indentedItems depth items, Plain e
  | [] => by unfold indentedItems; exact List.forall_mem_nil _
  | item :: rest => by
    unfold indentedItems
    exact List.forall_mem_cons.2 ⟨plain_indented depth item, plain_indentedItems depth rest⟩

theorem plain_indentedMembers (depth : Nat) :
    ∀ members : List (String × Json), ∀ e ∈ indentedMembers depth members, Plain e
  | [] => by unfold indentedMembers; exact List.forall_mem_nil _
  | (key, value) :: rest => by
    unfold indentedMembers
    have hkey := plain_append.2 ⟨plain_quote key, (by decide : Plain ": ")⟩
    exact List.forall_mem_cons.2
      ⟨plain_append.2 ⟨hkey, plain_indented depth value⟩, plain_indentedMembers depth rest⟩

end

end SchemaBindings.Json
