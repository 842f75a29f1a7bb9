import SchemaBindings.Proofs.Script.Cutting
import SchemaBindings.Schema.TableScript

/-!
A definition that breaks off gives no table. Whatever is left of it in front of the parenthesis that
closes its columns, be it cut inside a name, a literal or a comment mark, is refused: its header is not
found any more, or its parentheses never balance.
-/

namespace SchemaBindings

set_option autoImplicit false

open Script Reader

theorem takes_any_qualifiedName : Takes (fun _ => True) qualifiedName :=
  takes_any_name.bind fun _ => (takes_char trivial).bind fun _ => takes_any_name.bind fun _ => takes_pure _

theorem stopsAt_qualifiedName : StopsAt '(' qualifiedName :=
  have hname := stopsAt_name (by decide) (by decide) (by decide)
  hname.bind fun _ => (stopsAt_char (by decide)).bind fun _ => hname.bind fun _ => stopsAt_pure _

/-- A header ends with the first opening parenthesis behind its start. -/
theorem closedBy_tableHeader : tableHeader.ClosedBy '(' where
  needs :=
    .bind (takes_any_keyword "create") fun _ => .bind takes_any_blanks1 fun _ =>
      .bind (takes_any_keyword "table") fun _ => .bind takes_any_blanks1 fun _ =>
        .bind takes_any_qualifiedName fun _ => .bind takes_any_blanks fun _ => needs_char '(' _
  closes := by
    have hkeyword : ∀ w : String, (∀ k ∈ w.toList, Text.matchesLetter k '(' = false) →
        Before '(' (keyword w) := fun _ h => (stopsAt_keyLetters h).before
    have hblanks1 : Before '(' blanks1 := (stopsAt_blanks1 (by decide)).before
    refine (hkeyword "create" (by decide)).closes_bind fun _ => hblanks1.closes_bind fun _ => ?_
    refine (hkeyword "table" (by decide)).closes_bind fun _ => hblanks1.closes_bind fun _ => ?_
    refine stopsAt_qualifiedName.before.closes_bind fun _ => ?_
    exact (stopsAt_blanks (by decide)).before.closes_bind fun _ => closes_char _

variable {header : Found QualifiedName} {stop : Nat}

theorem find?_tableHeader_cut {w r : List Char} {x y : Char}
    (hxy : x = y ∨ isParenthesis x = false ∧ isParenthesis y = false)
    (h : tableHeader.find? (w ++ y :: r) = some header) :
    tableHeader.find? (w ++ [x]) = if header.stop ≤ w.length + 1 then some header else none := by
  have hopen : ∀ {c}, isParenthesis c = false → c ≠ '(' := by
    rintro c hc rfl
    cases hc
  have hfind := closedBy_tableHeader.findFrom_cut (w := w) (r := r) (hxy.imp_right (.imp hopen hopen))
    (fun _ => true) none 0
  unfold Clause.find? at h ⊢
  rw [hfind, h, Option.filter_some, Nat.zero_add]
  simp only [decide_eq_true_eq]

/-- What is left of a text in front of a closing parenthesis does not hold another one in its place. -/
theorem closingParen?_cut {w r : List Char} {x y : Char}
    (hxy : x = y ∨ isParenthesis x = false ∧ isParenthesis y = false) {start : Nat}
    (h : closingParen? (w ++ y :: r) start = some stop) (hlength : w.length < stop) :
    closingParen? (w ++ [x]) start = none := by
  refine Option.eq_none_iff_forall_ne_some.2 fun other hother => ?_
  obtain rfl : other = stop := Option.some.inj ((closingParen?_of_cut hxy hother).symm.trans h)
  have hshort := closingParen?_lt hother
  rw [List.length_append, List.length_singleton] at hshort
  omega

theorem Table.ofMasked_cut {short whole : List Char} (hcut : Cut short whole)
    (hheader : tableHeader.find? whole = some header)
    (hstop : closingParen? whole header.stop = some stop) (hlength : short.length ≤ stop) :
    Table.ofMasked short = .error (.script (if short.length < header.stop then .noTable
      else .unbalanced header.value.schema header.value.table)) := by
  obtain ⟨w, r, hxy⟩ := hcut
  rw [List.length_append, List.length_singleton] at hlength ⊢
  have hfind := find?_tableHeader_cut hxy hheader
  have hclose := closingParen?_cut hxy hstop hlength
  by_cases hheld : header.stop ≤ w.length + 1
  · rw [if_pos hheld] at hfind
    rw [if_neg (Nat.not_lt.2 hheld), Table.ofMasked, hfind]
    simp only [hclose]
    rfl
  · rw [if_neg hheld] at hfind
    rw [if_pos (Nat.lt_of_not_le hheld), Table.ofMasked, hfind]
    rfl

/-- A definition cut off anywhere in front of the parenthesis that closes its columns is refused. -/
theorem Table.ofScript_of_start {script cut : String}
    (hheader : tableHeader.find? (mask script.toList) = some header)
    (hstop : closingParen? (mask script.toList) header.stop = some stop)
    (hstart : cut.toList <+: script.toList) (hlength : cut.length ≤ stop) :
    Table.ofScript cut = .error (.script (if cut.length < header.stop then .noTable
      else .unbalanced header.value.schema header.value.table)) := by
  obtain ⟨rest, hrest⟩ := hstart
  rw [← String.length_toList] at hlength ⊢
  rw [Table.ofScript]
  rcases List.eq_nil_or_concat cut.toList with hcut | ⟨a, c, hcut⟩
  · have hpositive := closedBy_tableHeader.lt_stop hheader
    rw [hcut, if_pos (by simpa using hpositive)]
    rfl
  · rw [List.concat_eq_append] at hcut
    have hwhole : script.toList = a ++ c :: rest := by
      rw [← hrest, hcut, List.append_assoc, List.singleton_append]
    rw [hwhole] at hheader hstop
    rw [← length_mask cut.toList, hcut] at hlength ⊢
    exact Table.ofMasked_cut (cut_mask a c rest) hheader hstop hlength

/-- A definition with parentheses and quotes in its comments and its literal. -/
def guardedScript : String :=
  "-- (\nCREATE TABLE dbo.Item (\n  ID int, -- it's (\n  Note varchar(9) DEFAULT ')''(' -- last\n)"

/-- Cut inside the mark of its last comment. -/
theorem Table.ofScript_guardedScript_take :
    Table.ofScript (String.ofList (guardedScript.toList.take 83)) =
      .error (.script (.unbalanced "dbo" "Item")) := by
  have hheader : tableHeader.find? (mask guardedScript.toList) =
      some ⟨5, 28, ⟨"dbo", "Item"⟩⟩ := by decide +kernel
  have hstop : closingParen? (mask guardedScript.toList) 28 = some 90 := by decide +kernel
  refine Table.ofScript_of_start hheader hstop ?_ (by decide +kernel)
  rw [String.toList_ofList]
  exact List.take_prefix 83 guardedScript.toList

end SchemaBindings
