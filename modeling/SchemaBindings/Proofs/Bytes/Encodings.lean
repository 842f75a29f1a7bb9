import SchemaBindings.Bytes.Base64

/-!
Bytes that are written in Base64 are read back, and the bytes of a text are read back as the text.
-/

namespace SchemaBindings

set_option autoImplicit false

namespace Base64

theorem value?_sextet (n : Nat) : value? (sextet n) = some (n % 64) := by
  have hall : ∀ i : Fin 64, value? (alphabet.getD i 'A') = some i.val := by decide +kernel
  exact hall ⟨n % 64, Nat.mod_lt n (by decide)⟩

theorem sextet_ne_padding (n : Nat) : sextet n ≠ '=' := by
  intro h
  have hvalue := value?_sextet n
  rw [h] at hvalue
  cases hvalue

theorem byte_eq {n : Nat} {b : UInt8} (h : n % 256 = b.toNat) : byte n = b := by
  unfold byte
  rw [h, UInt8.ofNat_toNat]

/-- Three bytes are four groups of six bits, and a rest of one or two bytes is padded to four characters. -/
theorem decode?_encode (bs : List UInt8) : decode? (encode bs) = some bs := by
  induction bs using encode.induct with
  | case1 => rfl
  | case2 a =>
    have ha := a.toNat_lt
    simp only [encode, decode?, value?_sextet, Option.bind_eq_bind, Option.bind_some, Option.pure_def,
      Option.some.injEq, List.cons.injEq, and_true]
    exact byte_eq (by omega)
  | case3 a b =>
    have ha := a.toNat_lt
    have hb := b.toNat_lt
    rw [encode, decode?]
    · simp only [value?_sextet, Option.bind_eq_bind, Option.bind_some, Option.pure_def,
        Option.some.injEq, List.cons.injEq, and_true]
      exact ⟨byte_eq (by omega), byte_eq (by omega)⟩
    · exact fun h => sextet_ne_padding _ h
  | case4 a b c rest ih =>
    have ha := a.toNat_lt
    have hb := b.toNat_lt
    have hc := c.toNat_lt
    rw [encode, decode?]
    · simp only [value?_sextet, Option.bind_eq_bind, Option.bind_some, Option.pure_def, ih,
        Option.some.injEq, List.cons.injEq, and_true]
      exact ⟨byte_eq (by omega), byte_eq (by omega), byte_eq (by omega)⟩
    · exact fun _ h => (sextet_ne_padding _ h).elim
    · exact fun h => (sextet_ne_padding _ h).elim

end Base64

theorem toList_loop_eq (bytes : ByteArray) (i : Nat) (done : List UInt8) :
    ByteArray.toList.loop bytes i done = done.reverse ++ bytes.data.toList.drop i := by
  fun_induction ByteArray.toList.loop bytes i done with
  | case1 i done hlt ih =>
    have hlength : i < bytes.data.toList.length := hlt
    have hget : bytes.get! i = bytes.data.toList[i] := getElem!_pos bytes.data i hlt
    rw [ih, List.drop_eq_getElem_cons hlength, hget, List.reverse_cons, List.append_assoc,
      List.singleton_append]
  | case2 i done hge =>
    rw [List.drop_eq_nil_of_le (Nat.le_of_not_lt hge), List.append_nil]

theorem mk_toList (bytes : ByteArray) : ByteArray.mk bytes.toList.toArray = bytes := by
  have hlist : bytes.toList = bytes.data.toList := toList_loop_eq bytes 0 []
  rw [hlist, Array.toArray_toList]

theorem fromUTF8?_toUTF8 (s : String) : String.fromUTF8? s.toUTF8 = some s := by
  unfold String.fromUTF8?
  rw [String.toUTF8_eq_toByteArray, dif_pos s.isValidUTF8]
  rfl

/-- The text that bytes in Base64 are. -/
def Base64.text? (encoded : String) : Option String := do
  let bytes ← decode? encoded.toList
  String.fromUTF8? ⟨bytes.toArray⟩

theorem Base64.text?_encode (s : String) : text? (String.ofList (encode s.toUTF8.toList)) = some s := by
  unfold text?
  rw [String.toList_ofList, decode?_encode, Option.bind_eq_bind, Option.bind_some, mk_toList,
    fromUTF8?_toUTF8]

end SchemaBindings
