import RegistryDedup.Command.Options
import RegistryDedup.Proofs.Except
import RegistryDedup.Proofs.Json.Integers
import RegistryDedup.Proofs.Registry.Identifier
import RegistryDedup.Proofs.Store.Tables

/-!
# Columns that are set

Columns are set by texts with a column and a value. A value that is a whole number is read as one,
and what is stored may be written otherwise than it was given: digits that do not fit 64 bits are
lost, and so is the sign of a zero.

- `Assigns`: a text that sets a column to a value.
- `readAssignments_eq_ok`: such texts are read, and of several values of a column the last one
  counts.
- `text?_assignedValue_iff`: which whole numbers are stored as they were given.
- `readAssignments_keeps_iff`: the same of whole lists of such texts.
-/

namespace RegistryDedup

open Text

variable {text column value name : String} {v : Json}

/-! ## Texts -/

/-- A text that sets a column to a value: a valid name, with or without blanks around it, and the
value after the first equals sign. -/
structure Assigns (text column value : String) : Prop where
  valid : Identifier column.toList
  parts : ∃ left, text.toList = left ++ '=' :: value.toList ∧ Padded column.toList left

theorem Assigns.read_eq_ok (h : Assigns text column value) :
    readAssignment text = .ok (column, assignedValue value) := by
  obtain ⟨left, htext, hleft⟩ := h.parts
  have hnot : '=' ∉ left := hleft.not_mem rfl (h.valid.not_mem rfl (by decide) (by decide))
  have hcut : cutFirst '=' text = some (String.ofList left, value) := by
    rw [cutFirst, cutAtFirst_eq_some_iff.mpr ⟨htext, hnot⟩]
    exact congrArg (fun after => some (String.ofList left, after)) String.ofList_toList
  have hname : trimmed (String.ofList left) = column := by
    rw [trimmed, String.toList_ofList, hleft.trim_eq h.valid.flush, String.ofList_toList]
  have hvalid : checkIdentifier column = .ok () :=
    checkIdentifier_eq_ok_iff.mpr (isIdentifier_iff.mpr h.valid)
  rw [readAssignment, hcut]
  dsimp only
  rw [hname, hvalid]
  rfl

theorem Fields.ofList_append_singleton (fields : List (String × Json)) (field : String × Json) :
    ofList (fields ++ [field]) = put field.1 field.2 (ofList fields) := by
  rw [ofList, List.foldl_append]
  rfl

/-- Of several values of a name the last one counts. -/
theorem Fields.get?_ofList {before after : List (String × Json)}
    (hafter : ∀ field ∈ after, field.1 ≠ name) :
    Fields.get? (Fields.ofList (before ++ (name, v) :: after)) name = some v := by
  induction after using List.reverseRecOn with
  | nil => rw [ofList_append_singleton, Fields.get?_put, if_pos rfl]
  | append_singleton after field ih =>
    rw [List.forall_mem_append, List.forall_mem_singleton] at hafter
    rw [← List.cons_append, ← List.append_assoc, ofList_append_singleton, Fields.get?_put,
      if_neg (Ne.symm hafter.2)]
    exact ih hafter.1

/-- Texts that set columns are read. -/
theorem readAssignments_eq_ok {texts : List String} {pairs : List (String × String)}
    (h : List.Forall₂ (fun text pair => Assigns text pair.1 pair.2) texts pairs) :
    readAssignments texts =
      .ok (Fields.ofList (pairs.map fun pair => (pair.1, assignedValue pair.2))) := by
  have hread : texts.mapM readAssignment =
      .ok (pairs.map fun pair => (pair.1, assignedValue pair.2)) := by
    rw [mapM_eq_ok_iff, List.forall₂_map_right_iff]
    exact h.imp fun _ _ hassigns => hassigns.read_eq_ok
  rw [readAssignments, hread]
  rfl

/-! ## Whole numbers -/

/-- A whole number is stored as it was given if it fits 64 bits, and also if it is too large even for
a double, since then it is stored as a text. -/
theorem text?_assignedValue_iff {negative : Bool} {digits : List Char} (hdigits : Numeral digits) :
    ∃ text, (assignedValue (String.ofList (integerText negative digits))).text? = some text ∧
      (text = String.ofList (integerText negative digits) ↔
        NumberText.Fits negative (digitsValue digits) ∨
          NumberText.refused ≤ digitsValue digits) := by
  rw [assignedValue, Json.parse?_integerText hdigits]
  by_cases hfits : NumberText.Fits negative (digitsValue digits)
  · rw [NumberText.value?_of_fits hfits]
    refine ⟨_, rfl, iff_of_true ?_ (.inl hfits)⟩
    rw [Number.text_int hdigits hfits]
  · rw [NumberText.value?_of_not_fits hfits, NumberText.double?, or_iff_right hfits,
      ← NumberText.magnitude?_eq_none_iff hdigits.digits]
    cases hmagnitude : NumberText.magnitude? ⟨negative, digits, none, none⟩ with
    -- A text that is no JSON value is stored as it is.
    | none => exact ⟨_, rfl, iff_of_true rfl rfl⟩
    | some x =>
      refine ⟨_, rfl, iff_of_false ?_ (Option.some_ne_none x)⟩
      intro heq
      exact Number.floatText_ne_integerText hdigits _ (String.ofList_injective heq)

/-- Texts that set valid columns are read, and a column whose last value is a whole number is written
as that number was given just where the number fits 64 bits or is too large even for a double. -/
theorem readAssignments_keeps_iff {texts : List String} {pairs : List (String × String)}
    (h : List.Forall₂ (fun text pair => Assigns text pair.1 pair.2) texts pairs) :
    ∃ row, readAssignments texts = .ok row ∧
      ∀ before column negative digits after, Numeral digits →
        pairs = before ++ (column, String.ofList (integerText negative digits)) :: after →
        (∀ pair ∈ after, pair.1 ≠ column) →
        ∃ value text, Fields.get? row column = some value ∧ value.text? = some text ∧
          (text = String.ofList (integerText negative digits) ↔
            NumberText.Fits negative (digitsValue digits) ∨
              NumberText.refused ≤ digitsValue digits) := by
  refine ⟨_, readAssignments_eq_ok h, ?_⟩
  rintro before column negative digits after hdigits rfl hafter
  obtain ⟨text, htext, hiff⟩ := text?_assignedValue_iff hdigits
  refine ⟨_, text, ?_, htext, hiff⟩
  rw [List.map_append, List.map_cons]
  refine Fields.get?_ofList ?_
  rw [List.forall_mem_map]
  exact hafter

/-- A number with one more than 64 bits, for a column that is set twice. -/
theorem readAssignments_keeps_iff_long :
    let texts := ["area=1", " area =18446744073709551617", "code=007"]
    let pairs := [("area", "1"), ("area", "18446744073709551617"), ("code", "007")]
    List.Forall₂ (fun text pair => Assigns text pair.1 pair.2) texts pairs ∧
      ∃ row value text, readAssignments texts = .ok row ∧
        Fields.get? row "area" = some value ∧ value.text? = some text ∧
        text ≠ "18446744073709551617" := by
  have hnumeral : Numeral "18446744073709551617".toList :=
    ⟨by decide, List.all_eq_true.mp (by decide), .inr (by decide)⟩
  have harea : Identifier "area".toList := isIdentifier_iff.mp (by decide)
  have hcode : Identifier "code".toList := isIdentifier_iff.mp (by decide)
  have hall : List.Forall₂ (fun text pair => Assigns text pair.1 pair.2)
      ["area=1", " area =18446744073709551617", "code=007"]
      [("area", "1"), ("area", "18446744073709551617"), ("code", "007")] := by
    refine .cons ⟨harea, "area".toList, by decide, .refl _⟩ (.cons ⟨harea, " area ".toList,
      by decide, [' '], [' '], by decide, by decide, by decide⟩ (.cons ⟨hcode, "code".toList,
      by decide, .refl _⟩ .nil))
  refine ⟨hall, ?_⟩
  obtain ⟨row, hread, hkeeps⟩ := readAssignments_keeps_iff hall
  obtain ⟨value, text, hvalue, htext, hiff⟩ := hkeeps [("area", "1")] "area" false
    "18446744073709551617".toList [("code", "007")] hnumeral (by decide) (by decide)
  refine ⟨row, value, text, hread, hvalue, htext, fun heq => ?_⟩
  have hor := hiff.mp (heq.trans (by decide))
  revert hor
  decide +kernel

end RegistryDedup
