import Mathlib.Tactic.SplitIfs
import SchemaBindings.Json.Reader
import SchemaBindings.Json.Writer

/-!
A string of any characters is read back as it was written. A character is written as itself, by a short escape
or by its UTF-16 units, and units are put together again as they are read.
-/

namespace SchemaBindings.Json

set_option autoImplicit false

open Text (Codes)

def unitEscapes (c : Char) : List Char := (utf16Units c).flatMap fun u => '\\' :: 'u' :: hex4 u

def shortEscapes : List Char := ['"', '\\', 'b', 'f', 'n', 'r', 't']

theorem escape_cases (c : Char) :
    (∃ d ∈ shortEscapes, simpleEscape? d = some c.toNat ∧ escape c = ['\\', d]) ∨
    (32 ≤ c.toNat ∧ c.toNat < 127 ∧ c ≠ '"' ∧ c ≠ '\\' ∧ escape c = [c]) ∨
      escape c = unitEscapes c := by
  unfold escape
  split_ifs with hquote hslash hbreak hreturn htab hback hfeed hplain
  · exact .inl ⟨'"', by decide, by rw [hquote]; rfl, rfl⟩
  · exact .inl ⟨'\\', by decide, by rw [hslash]; rfl, rfl⟩
  · exact .inl ⟨'n', by decide, by rw [hbreak]; rfl, rfl⟩
  · exact .inl ⟨'r', by decide, by rw [hreturn]; rfl, rfl⟩
  · exact .inl ⟨'t', by decide, by rw [htab]; rfl, rfl⟩
  · exact .inl ⟨'b', by decide, by rw [hback]; rfl, rfl⟩
  · exact .inl ⟨'f', by decide, by rw [hfeed]; rfl, rfl⟩
  · exact .inr (.inl ⟨hplain.1, hplain.2, hquote, hslash, rfl⟩)
  · exact .inr (.inr rfl)

theorem hexValue?_hexDigit (n : Nat) : hexValue? (hexDigit (n % 16)) = some (n % 16) := by
  have hall : ∀ i : Fin 16, hexValue? (hexDigit i) = some i.val := by decide
  exact hall ⟨n % 16, Nat.mod_lt n (by decide)⟩

theorem hexNumber?_hex4 {u : Nat} (h : u < 0x10000) : hexNumber? (hex4 u) = some u := by
  simp only [hexNumber?, hex4, List.foldlM_cons, List.foldlM_nil, hexValue?_hexDigit, Option.map_some,
    Option.bind_eq_bind, Option.bind_some, Option.pure_def, Option.some.injEq]
  omega

theorem toNat_lt (c : Char) : c.toNat < 0x110000 := by
  rcases c.valid with h | h
  · exact Nat.lt_trans h (by decide)
  · exact h.2

theorem utf16Units_of_lt {c : Char} (h : c.toNat < 0x10000) : utf16Units c = [c.toNat] := if_pos h

theorem utf16Units_lt {c : Char} {u : Nat} (h : u ∈ utf16Units c) : u < 0x10000 := by
  have hc := toNat_lt c
  unfold utf16Units at h
  split at h
  · rename_i hsmall
    exact List.mem_singleton.1 h ▸ hsmall
  · rw [List.mem_cons, List.mem_singleton] at h
    rcases h with h | h
    · omega
    · omega

/-- The units of a character are joined whatever units come after them. -/
theorem joined_utf16Units_append (c : Char) (rest : Codes) :
    Codes.joined (utf16Units c ++ rest) = c :: Codes.joined rest := by
  have hc := toNat_lt c
  unfold utf16Units
  split
  · rw [List.singleton_append]
    cases rest with
    | nil => rw [Codes.joined, Codes.joined, Codes.shownChar_toNat]
    | cons v rest =>
      have hvalid : c.toNat < 0xD800 ∨ 0xDFFF < c.toNat := c.valid.imp_right And.left
      rw [Codes.joined, if_neg (by omega), Codes.shownChar_toNat]
  · rename_i hlarge
    rw [List.cons_append, List.singleton_append, Codes.joined, if_pos (by omega)]
    have hcode : 0x10000 + (0xD800 + (c.toNat - 0x10000) / 0x400 - 0xD800) * 0x400 +
        (0xDC00 + (c.toNat - 0x10000) % 0x400 - 0xDC00) = c.toNat := by omega
    rw [hcode, Char.ofNat_toNat]

theorem joined_utf16Units (cs : List Char) : Codes.joined (cs.flatMap utf16Units) = cs := by
  induction cs with
  | nil => rfl
  | cons c rest ih => rw [List.flatMap_cons, joined_utf16Units_append, ih]

theorem stringUnits_hex4 {u : Nat} (h : u < 0x10000) (text : List Char) :
    stringUnits ('\\' :: 'u' :: (hex4 u ++ text)) =
      (stringUnits text).map fun found => (u :: found.1, found.2) := by
  have hnumber := hexNumber?_hex4 h
  unfold hex4 at hnumber
  simp only [hex4, List.cons_append, List.nil_append, stringUnits, hnumber]
  cases stringUnits text with
  | none => rfl
  | some found => rfl

theorem stringUnits_units {units : List Nat} (h : ∀ u ∈ units, u < 0x10000) (text : List Char) :
    stringUnits (units.flatMap (fun u => '\\' :: 'u' :: hex4 u) ++ text) =
      (stringUnits text).map fun found => (units ++ found.1, found.2) := by
  induction units with
  | nil => exact Option.map_id'.symm
  | cons u rest ih =>
    obtain ⟨hu, hrest⟩ := List.forall_mem_cons.1 h
    rw [List.flatMap_cons, List.append_assoc, List.cons_append, List.cons_append, stringUnits_hex4 hu,
      ih hrest, Option.map_map]
    rfl

theorem stringUnits_escape (c : Char) (text : List Char) :
    stringUnits (escape c ++ text) =
      (stringUnits text).map fun found => (utf16Units c ++ found.1, found.2) := by
  rcases escape_cases c with ⟨d, hd, hvalue, hescape⟩ |
    ⟨hlow, hhigh, hquote, hslash, hescape⟩ | hescape
  · have hu : d ≠ 'u' := by
      rintro rfl
      cases hvalue
    have hshort : ∀ d ∈ shortEscapes, ∀ n ∈ simpleEscape? d, n < 0x10000 := by decide
    have hsmall : c.toNat < 0x10000 := hshort d hd _ hvalue
    rw [hescape, List.cons_append, List.singleton_append, stringUnits, hvalue, utf16Units_of_lt hsmall]
    · cases stringUnits text with
      | none => rfl
      | some found => rfl
    · exact fun _ _ _ _ _ h _ => hu h
  · rw [hescape, List.singleton_append, stringUnits, if_neg (by omega), utf16Units_of_lt (by omega)]
    · cases stringUnits text with
      | none => rfl
      | some found => rfl
    · exact hquote
    · exact fun _ _ _ _ _ h _ => hslash h
    · exact fun _ _ h _ => hslash h
  · rw [hescape]
    exact stringUnits_units (fun u => utf16Units_lt) text

theorem stringUnits_quote (cs text : List Char) :
    stringUnits (cs.flatMap escape ++ '"' :: text) = some (cs.flatMap utf16Units, text) := by
  induction cs with
  | nil => rw [List.flatMap_nil, List.flatMap_nil, List.nil_append, stringUnits]
  | cons c rest ih =>
    rw [List.flatMap_cons, List.flatMap_cons, List.append_assoc, stringUnits_escape, ih, Option.map_some]

end SchemaBindings.Json
