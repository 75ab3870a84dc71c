import RegistryDedup.Proofs.Text.Split
import RegistryDedup.Proofs.Text.Trim
import RegistryDedup.Registry.Identifier

/-!
# Names of tables and columns

The check for names takes a text apart at its dots. What it lets through is described by
`Identifier`, without a reference to parts: a name, or a schema and a name with a dot between them.

- `SimpleName`, `Identifier`: names without and with a schema.
- `checkIdentifier_eq_ok_iff`, `isIdentifier_iff`: the check lets names through and nothing else.
- `Identifier.characters`, `Identifier.not_mem`, `Identifier.flush`: what a name is made of, so that
  it can stand between separators and blanks.
-/

namespace RegistryDedup

open Text

variable {s : List Char} {c : Char}

/-! ## Names without a schema -/

/-- A name without a schema. -/
structure SimpleName (s : List Char) : Prop where
  ne_nil : s ≠ []
  characters : ∀ c ∈ s, c.isAlphanum = true ∨ c = '_'
  start : ∀ c ∈ s.head?, c.isDigit = false

/-- Letters and digits by their numbers. -/
theorem isAlphanum_iff : c.isAlphanum = true ↔
    (65 ≤ c.toNat ∧ c.toNat ≤ 90 ∨ 97 ≤ c.toNat ∧ c.toNat ≤ 122) ∨
      48 ≤ c.toNat ∧ c.toNat ≤ 57 := by
  have hupper : c.isUpper = true ↔ 65 ≤ c.toNat ∧ c.toNat ≤ 90 := decide_eq_true_iff
  have hlower : c.isLower = true ↔ 97 ≤ c.toNat ∧ c.toNat ≤ 122 := by
    show (decide _ && decide _) = true ↔ _
    rw [Bool.and_eq_true, decide_eq_true_iff, decide_eq_true_iff]
    exact Iff.rfl
  have hdigit : c.isDigit = true ↔ 48 ≤ c.toNat ∧ c.toNat ≤ 57 := Char.isDigit_iff_toNat
  show (c.isUpper || c.isLower || c.isDigit) = true ↔ _
  rw [Bool.or_eq_true, Bool.or_eq_true, hupper, hlower, hdigit]

theorem isNameChar_iff : isNameChar c = true ↔ c.isAlphanum = true ∨ c = '_' := by
  have hle : ∀ a b : Char, a ≤ b ↔ a.toNat ≤ b.toNat := fun _ _ => Iff.rfl
  rw [isAlphanum_iff]
  simp only [isNameChar, isDigit, hle, Bool.or_eq_true, Bool.and_eq_true, decide_eq_true_eq,
    beq_iff_eq]
  exact or_congr_left (or_congr_left Or.comm)

theorem isSimpleName_iff : isSimpleName s = true ↔ SimpleName s := by
  cases s with
  | nil => exact iff_of_false Bool.false_ne_true fun h => h.ne_nil rfl
  | cons c s =>
    rw [isSimpleName, Bool.and_eq_true, Bool.not_eq_true', List.all_eq_true]
    constructor
    · rintro ⟨hstart, hall⟩
      refine ⟨List.cons_ne_nil c s, fun d hd => isNameChar_iff.mp (hall d hd), fun d hd => ?_⟩
      rw [List.head?_cons, Option.mem_some_iff] at hd
      rw [← hd]
      exact hstart
    · intro h
      exact ⟨h.start c rfl, fun d hd => isNameChar_iff.mpr (h.characters d hd)⟩

/-- A character that no name has is not in a name. -/
theorem SimpleName.not_mem (h : SimpleName s) (hc : c.isAlphanum = false) (hc' : c ≠ '_') :
    c ∉ s := by
  intro hmem
  have hname := h.characters c hmem
  rw [hc] at hname
  exact hname.elim Bool.false_ne_true hc'

/-! ## Names with and without a schema -/

/-- A name, which may have a schema in front. -/
inductive Identifier : List Char → Prop
  | plain {name : List Char} (h : SimpleName name) : Identifier name
  | qualified {schema name : List Char} (hschema : SimpleName schema) (hname : SimpleName name) :
      Identifier (schema ++ '.' :: name)

/-- The text between two dots has no dot, so that there is one way only to take a name apart. -/
theorem isIdentifier_iff {name : String} : isIdentifier name = true ↔ Identifier name.toList := by
  rw [isIdentifier, Bool.and_eq_true, decide_eq_true_iff, List.all_eq_true]
  constructor
  · rintro ⟨hlength, hnames⟩
    have hwhole := joinWith_splitOn '.' name.toList
    rw [← hwhole]
    match hparts : splitOn '.' name.toList with
    | [] => exact absurd hparts (splitOn_ne_nil '.' name.toList)
    | [part] =>
      rw [hparts] at hnames
      exact .plain (isSimpleName_iff.mp (hnames part List.mem_cons_self))
    | [schema, part] =>
      rw [hparts, List.forall_mem_cons, List.forall_mem_singleton] at hnames
      have hjoin : joinWith ['.'] [schema, part] = schema ++ '.' :: part := by simp [joinWith]
      rw [hjoin]
      exact .qualified (isSimpleName_iff.mp hnames.1) (isSimpleName_iff.mp hnames.2)
    | _ :: _ :: _ :: _ =>
      rw [hparts] at hlength
      simp at hlength
  · intro h
    generalize name.toList = text at h
    have hdot : ∀ {part : List Char}, SimpleName part → splitOn '.' part = [part] := fun hpart =>
      splitOn_of_not_mem (hpart.not_mem rfl (by decide))
    cases h with
    | plain h =>
      rw [hdot h]
      exact ⟨by simp, List.forall_mem_singleton.mpr (isSimpleName_iff.mpr h)⟩
    | qualified hschema hname =>
      rw [splitOn_append, hdot hschema, hdot hname]
      refine ⟨by simp, ?_⟩
      rw [List.singleton_append, List.forall_mem_cons, List.forall_mem_singleton]
      exact ⟨isSimpleName_iff.mpr hschema, isSimpleName_iff.mpr hname⟩

theorem checkIdentifier_eq_ok_iff {name : String} :
    checkIdentifier name = .ok () ↔ isIdentifier name := by
  rw [checkIdentifier]
  split <;> simp [*]

/-- A text that passes the check for names has one part, or two. -/
theorem length_parts {name : String} (hname : isIdentifier name) :
    (splitOn '.' name.toList).length = 1 ∨ (splitOn '.' name.toList).length = 2 := by
  rw [isIdentifier, Bool.and_eq_true, decide_eq_true_iff] at hname
  have hpos := List.length_pos_of_ne_nil (splitOn_ne_nil '.' name.toList)
  omega

namespace Identifier

theorem ne_nil (h : Identifier s) : s ≠ [] := by
  cases h with
  | plain h => exact h.ne_nil
  | qualified _ _ => simp

theorem characters (h : Identifier s) (hc : c ∈ s) : c.isAlphanum = true ∨ c = '_' ∨ c = '.' := by
  cases h with
  | plain h => exact (h.characters c hc).imp_right .inl
  | qualified hschema hname =>
    rw [List.mem_append, List.mem_cons] at hc
    obtain hc | hc | hc := hc
    · exact (hschema.characters c hc).imp_right .inl
    · exact .inr (.inr hc)
    · exact (hname.characters c hc).imp_right .inl

/-- A character that no name has is not in a name. -/
theorem not_mem (h : Identifier s) (hc : c.isAlphanum = false) (hc' : c ≠ '_') (hdot : c ≠ '.') :
    c ∉ s := by
  intro hmem
  have hname := h.characters hmem
  rw [hc] at hname
  exact hname.elim Bool.false_ne_true fun hmark => hmark.elim hc' hdot

/-- A name has no blanks: they are neither letters nor digits. -/
theorem visible (h : Identifier s) : Visible s := by
  intro c hc
  have hascii : c.isAlphanum = true → isBlank c = false := by
    intro halnum
    have hrange := isAlphanum_iff.mp halnum
    unfold isBlank
    simp only [Bool.or_eq_false_iff, Bool.and_eq_false_iff, decide_eq_false_iff_not,
      beq_eq_false_iff_ne]
    omega
  obtain hc | rfl | rfl := h.characters hc
  · exact hascii hc
  · rfl
  · rfl

theorem flush (h : Identifier s) : Flush s :=
  h.visible.flush

end Identifier

end RegistryDedup
