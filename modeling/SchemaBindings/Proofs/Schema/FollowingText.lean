import SchemaBindings.Proofs.Schema.KeyRoundTrip
import SchemaBindings.Proofs.Schema.TruncatedTable

/-!
What stands behind a table definition. The header and the column block are read up to the parenthesis that
closes the block, so further statements change neither the names nor the columns. The key is looked for in
the whole text when the block names none, and so may come from a statement behind the table.
-/

namespace SchemaBindings

set_option autoImplicit false

open Script Reader

theorem getElem?_closingParen? {text : List Char} {start stop : Nat}
    (h : closingParen? text start = some stop) : text[stop]? = some ')' := by
  obtain ⟨k, hk, rfl⟩ := Option.map_eq_some_iff.1 h
  obtain ⟨x, hx, hcloses⟩ := closes_of_closingFrom hk
  have hchar : (text.drop start)[k]? = some x.1 := by
    rw [← map_fst_marked (text.drop start), List.getElem?_map, hx, Option.map_some]
  rw [← List.getElem?_drop, hchar, eq_of_beq (Bool.and_eq_true_iff.1 hcloses).1]

/-- A key constraint ends with the first closing parenthesis behind its start. -/
theorem closedBy_keyConstraint : keyConstraint.ClosedBy ')' where
  needs := KeyScript.needs_keyConstraint KeyScript.needs_keyColumns_close
  closes := by
    have hkeyword : ∀ w : String, (∀ k ∈ w.toList, Text.matchesLetter k ')' = false) →
        Before ')' (keyword w) := fun _ h => (stopsAt_keyLetters h).before
    have hblanks : Before ')' blanks := (stopsAt_blanks (by decide)).before
    have hblanks1 : Before ')' blanks1 := (stopsAt_blanks1 (by decide)).before
    have hname : Before ')' name := (stopsAt_name (by decide) (by decide) (by decide)).before
    have heither : ∀ v w : String, (∀ k ∈ v.toList ++ w.toList, Text.matchesLetter k ')' = false) →
        Before ')' (optional (keyword v <|> keyword w)) := by
      intro v w h
      apply StopsAt.before
      apply StopsAt.optional
      apply StopsAt.orElse
      · exact stopsAt_keyLetters fun k hk => h k (List.mem_append_left _ hk)
      · exact stopsAt_keyLetters fun k hk => h k (List.mem_append_right _ hk)
    refine (hkeyword "constraint" (by decide)).closes_bind fun _ => hblanks1.closes_bind fun _ => ?_
    refine hname.closes_bind fun _ => hblanks1.closes_bind fun _ => ?_
    refine (hkeyword "primary" (by decide)).closes_bind fun _ => hblanks1.closes_bind fun _ => ?_
    refine (hkeyword "key" (by decide)).closes_bind fun _ => hblanks.closes_bind fun _ => ?_
    refine (heither "clustered" "nonclustered" (by decide)).closes_bind fun _ => ?_
    refine hblanks.closes_bind fun _ => (stopsAt_char (by decide)).before.closes_bind fun _ => ?_
    refine hblanks.closes_bind fun _ => hname.closes_bind fun _ => hblanks.closes_bind fun _ => ?_
    exact (heither "asc" "desc" (by decide)).closes_bind fun _ => hblanks.closes_bind fun _ => closes_char _

namespace Table

/-- The table with the given key, unless it names one itself. -/
def withKey (table : Table) (key : Option String) : Table :=
  { table with primaryKeyColumn := table.primaryKeyColumn <|> key }

/-- What a header and the block behind it give, with the key to take if no line of the block names one. -/
def ofBlock (names : QualifiedName) (block : List Char) (key : Option String) : Except ParseError Table := do
  let lines ← ((blockLines block).mapM lineOf).mapError .numeral
  let (columns, own) := blockOf lines
  if columns.isEmpty then throw (.script (.noColumns names.schema names.table))
  return ⟨names.schema, names.table, columns, own <|> key⟩

theorem ofMasked_eq_ofBlock {text : List Char} {header : Found QualifiedName} {stop : Nat}
    (hheader : tableHeader.find? text = some header)
    (hstop : closingParen? text header.stop = some stop) :
    ofMasked text = ofBlock header.value ((text.take stop).drop header.stop)
      ((keyConstraint.find? text).map Found.value) := by
  unfold ofMasked
  simp only [hheader, hstop]
  rfl

theorem ofBlock_or (names : QualifiedName) (block : List Char) (key other : Option String) :
    ofBlock names block (key.or other) = (ofBlock names block key).map (·.withKey other) := by
  unfold ofBlock
  cases ((blockLines block).mapM lineOf).mapError ParseError.numeral with
  | error e => rfl
  | ok lines =>
    change (if (blockOf lines).1.isEmpty = true then _ else _) =
      Except.map _ (if (blockOf lines).1.isEmpty = true then _ else _)
    split
    · rfl
    · apply congrArg Except.ok
      simp only [withKey, Option.orElse_eq_orElse, Option.orElse_eq_or, Option.or_assoc]

/-- The script ends with the parenthesis that closes the columns of its first table. -/
def EndsWithBlock (script : String) : Prop :=
  ∃ header stop, tableHeader.find? (mask script.toList) = some header ∧
    closingParen? (mask script.toList) header.stop = some stop ∧ stop + 1 = script.length

theorem ofMasked_append {w : List Char} (rest : List Char) {header : Found QualifiedName}
    (hheader : tableHeader.find? (w ++ [')']) = some header)
    (hstop : closingParen? (w ++ [')']) header.stop = some w.length) :
    ofMasked (w ++ ')' :: rest) =
      (ofMasked (w ++ [')'])).map (·.withKey ((keyConstraint.find? rest).map Found.value)) := by
  have hwhole : tableHeader.find? (w ++ ')' :: rest) = some header := by
    have hcut := closedBy_tableHeader.findFrom_cut (w := w) (r := rest) (x := ')') (.inl rfl)
      (fun _ => true) none 0
    exact (Option.filter_eq_some_iff.1 (hcut.symm.trans hheader)).1
  have hclose := closingParen?_of_cut (r := rest) (.inl rfl) hstop
  rw [ofMasked_eq_ofBlock hwhole hclose, ofMasked_eq_ofBlock hheader hstop, List.take_left, List.take_left,
    closedBy_keyConstraint.map_value_find?_append_cons rfl, ofBlock_or]

/-- The statements behind a table give it a key if it names none, and change nothing else. -/
theorem ofScript_append {script : String} (hend : EndsWithBlock script) (rest : String) :
    ofScript (script ++ rest) = (ofScript script).map
      (·.withKey ((keyConstraint.find? ((mask (script ++ rest).toList).drop script.length)).map
        Found.value)) := by
  obtain ⟨header, stop, hheader, hstop, hlength⟩ := hend
  rw [← String.length_toList] at hlength ⊢
  rw [ofScript, ofScript, String.toList_append]
  rcases List.eq_nil_or_concat script.toList with hscript | ⟨a, c, hscript⟩
  · rw [hscript] at hlength
    cases hlength
  · rw [List.concat_eq_append] at hscript
    rw [hscript] at hheader hstop hlength ⊢
    obtain ⟨w, r, x, y, hshort, hwhole, hxy⟩ := (cut_mask a c rest.toList).exists_eq
    have hw : (w ++ [x]).length = (a ++ [c]).length := by
      rw [← hshort, length_mask]
    rw [hshort] at hheader hstop
    obtain rfl : w.length = stop := by
      rw [List.length_append, List.length_singleton] at hw
      omega
    obtain rfl : x = ')' := by
      have hlast := getElem?_closingParen? hstop
      rwa [List.getElem?_concat_length, Option.some_inj] at hlast
    obtain rfl : ')' = y := by
      rcases hxy with hxy | ⟨hparenthesis, _⟩
      · exact hxy
      · cases hparenthesis
    have hrest : (w ++ ')' :: r).drop (a ++ [c]).length = r := by
      rw [← hw, List.append_cons w ')' r, List.drop_left]
    rw [List.append_assoc, List.singleton_append, hwhole, hshort, hrest, ofMasked_append r hheader hstop]

/-- A table keeps its names, its columns and a key of its own whatever statements follow it behind a
separator. A table that names no key takes the first one that a constraint behind it names. -/
theorem ofScript_followed {script : String} {table : Table} (htable : ofScript script = .ok table)
    (hend : EndsWithBlock script) (more : String) :
    ofScript (script ++ "\nGO\n" ++ more) = .ok (table.withKey
      ((keyConstraint.find? ((mask (script ++ "\nGO\n" ++ more).toList).drop script.length)).map
        Found.value)) := by
  rw [String.append_assoc, ofScript_append hend, htable]
  rfl

/-- A table without a key; its last comment names none. -/
def keylessScript : String :=
  "CREATE TABLE dbo.Item (\n  KindID int, -- CONSTRAINT PK_Kind PRIMARY KEY (KindID)\n  Note varchar(9)\n)"

def otherKeyScript : String :=
  "-- PRIMARY KEY (Note)\nALTER TABLE dbo.Other ADD CONSTRAINT PK_Other PRIMARY KEY (OtherID)"

def keylessTable : Table where
  schemaName := "dbo"
  tableName := "Item"
  columns := [{ name := "KindID", sqlType := "int" },
    { name := "Note", sqlType := "varchar", maxLength := some 9 }]

theorem endsWithBlock_keylessScript : EndsWithBlock keylessScript := by
  refine ⟨⟨0, 23, ⟨"dbo", "Item"⟩⟩, 99, ?_, ?_, ?_⟩
  · decide +kernel
  · decide +kernel
  · decide +kernel

theorem ofScript_keyless : ofScript keylessScript = .ok keylessTable := by decide +kernel

theorem value_find?_otherKeyScript :
    (keyConstraint.find? ((mask (keylessScript ++ "\nGO\n" ++ otherKeyScript).toList).drop
      keylessScript.length)).map Found.value = some "OtherID" := by
  decide +kernel

theorem ofScript_keylessScript :
    ofScript keylessScript = .ok keylessTable ∧ EndsWithBlock keylessScript ∧
      ofScript (keylessScript ++ "\nGO\n" ++ otherKeyScript) =
          .ok (keylessTable.withKey (some "OtherID")) := by
  refine ⟨ofScript_keyless, endsWithBlock_keylessScript, ?_⟩
  have hfollowed := ofScript_followed ofScript_keyless endsWithBlock_keylessScript otherKeyScript
  rwa [value_find?_otherKeyScript] at hfollowed

/-- The key of another statement becomes the key of a table that names none. -/
theorem ofScript_otherKeyScript :
    EndsWithBlock keylessScript ∧
      (ofScript keylessScript).map (·.primaryKeyColumn) = .ok none ∧
      (ofScript (keylessScript ++ "\nGO\n" ++ otherKeyScript)).map (·.primaryKeyColumn) =
        .ok (some "OtherID") := by
  refine ⟨endsWithBlock_keylessScript, ?_, ?_⟩
  · rw [ofScript_keyless]
    rfl
  · have hfound := value_find?_otherKeyScript
    rw [String.append_assoc] at hfound ⊢
    rw [ofScript_append endsWithBlock_keylessScript, ofScript_keyless, hfound]
    rfl

end Table

end SchemaBindings
