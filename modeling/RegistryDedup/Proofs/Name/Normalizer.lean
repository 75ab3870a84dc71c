import Mathlib.Logic.Relation
import RegistryDedup.Name.Normalizer
import RegistryDedup.Proofs.Text.Split
import RegistryDedup.Proofs.Text.Upper

/-!
# Canonical keys

Taking a qualifier off is a step from one key to a shorter one, and the key of a name is where the
steps from its plain form come to an end. What holds of the plain form and is kept by a step holds
of the key.

- `TakesOff`: the step, in terms of the qualifiers as they were given.
- `stripOnce?_eq_none_iff`: a normalizer stops where no step is left.
- `takesOff_stripAll`: as many steps as there are characters are enough.
- `key_canonical`: keys are canonical forms.
-/

namespace RegistryDedup

open Text

namespace Normalizer

variable {qualifiers : List String} {p q key rest : List Char} {ps : List (List Char)}

/-! ## One qualifier -/

/-- A key that has a qualifier in front, and what is left of it. The qualifier ends with a point or
is followed by a space, and something is left. -/
inductive TakesOff (qualifiers : List String) : (key rest : List Char) → Prop
  | intro {q : String} {after : List Char} (mem : q ∈ qualifiers)
      (visible : plainName q.toList ≠ [])
      (boundary : (plainName q.toList).getLast? = some '.' ∨ after.head? = some ' ')
      (left : trimStart after ≠ []) :
      TakesOff qualifiers (plainName q.toList ++ after) (trimStart after)

namespace TakesOff

theorem rest_ne_nil (h : TakesOff qualifiers key rest) : rest ≠ [] := by
  obtain ⟨-, -, -, hleft⟩ := h
  exact hleft

theorem suffix (h : TakesOff qualifiers key rest) : rest <:+ key := by
  obtain ⟨-, -, -, -⟩ := h
  exact (List.dropWhile_suffix _).trans (List.suffix_append _ _)

theorem length_lt (h : TakesOff qualifiers key rest) : rest.length < key.length := by
  obtain @⟨q, after, -, hvisible, -, -⟩ := h
  have hq : 0 < (plainName q.toList).length := List.length_pos_of_ne_nil hvisible
  have hafter : (trimStart after).length ≤ after.length := (List.dropWhile_suffix _).length_le
  rw [List.length_append]
  omega

theorem tidy (h : TakesOff qualifiers key rest) (hkey : Tidy key) : Tidy rest := by
  refine hkey.suffix h.suffix fun c hc => ?_
  obtain @⟨q, after, -, -, -, -⟩ := h
  have hhead := List.head?_dropWhile_not isBlank after
  rw [trimStart] at hc
  rw [hc] at hhead
  simpa using hhead

end TakesOff

theorem mem_insertQualifier : p ∈ insertQualifier q ps ↔ p = q ∨ p ∈ ps := by
  induction ps with
  | nil => simp [insertQualifier]
  | cons r ps ih =>
    rw [insertQualifier]
    by_cases hq : q = r
    · rw [if_pos hq, hq, List.mem_cons]
      simp
    · rw [if_neg hq]
      by_cases hbefore : triedBefore q r
      · rw [if_pos hbefore, List.mem_cons]
      · rw [if_neg hbefore, List.mem_cons, List.mem_cons, ih]
        exact or_left_comm

/-- The qualifiers of a normalizer are the ones it was given, less the blank ones. -/
theorem mem_qualifiers : p ∈ (ofList qualifiers).qualifiers ↔
    p ≠ [] ∧ ∃ q ∈ qualifiers, plainName q.toList = p := by
  have hfold : ∀ ps : List (List Char), p ∈ ps.foldr insertQualifier [] ↔ p ∈ ps := by
    intro ps
    induction ps with
    | nil => rfl
    | cons q ps ih => rw [List.foldr_cons, mem_insertQualifier, ih, List.mem_cons]
  rw [ofList, hfold, List.mem_filter, List.mem_map, and_comm]
  simp

theorem strip?_eq_some : strip? key q = some rest ↔ ∃ after, key = q ++ after ∧
    (q.getLast? = some '.' ∨ after.head? = some ' ') ∧ rest ≠ [] ∧ trimStart after = rest := by
  unfold strip?
  constructor
  · intro h
    split at h
    · cases h
    · next after hlead =>
      split at h
      · next hcond =>
        simp only [Bool.and_eq_true, Bool.or_eq_true, beq_iff_eq, Bool.not_eq_true',
          List.isEmpty_eq_false_iff] at hcond
        cases h
        exact ⟨after, afterLead_eq_some.mp hlead, hcond.1, hcond.2, rfl⟩
      · cases h
  · rintro ⟨after, rfl, hboundary, hne, rfl⟩
    rw [afterLead_append]
    exact if_pos (by simpa [hne] using hboundary)

theorem takesOff_of_stripOnce? (h : (ofList qualifiers).stripOnce? key = some rest) :
    TakesOff qualifiers key rest := by
  obtain ⟨p, hp, hstrip⟩ := List.exists_of_findSome?_eq_some h
  obtain ⟨hne, q, hq, rfl⟩ := mem_qualifiers.mp hp
  obtain ⟨after, rfl, hboundary, hleft, rfl⟩ := strip?_eq_some.mp hstrip
  exact .intro hq hne hboundary hleft

/-- A normalizer stops where no qualifier can be taken off any more. -/
theorem stripOnce?_eq_none_iff :
    (ofList qualifiers).stripOnce? key = none ↔ ∀ rest, ¬TakesOff qualifiers key rest := by
  constructor
  · intro hnone rest h
    obtain @⟨q, after, hq, hvisible, hboundary, hleft⟩ := h
    have hstrip := List.findSome?_eq_none_iff.mp hnone _ (mem_qualifiers.mpr ⟨hvisible, q, hq, rfl⟩)
    rw [strip?_eq_some.mpr ⟨after, rfl, hboundary, hleft, rfl⟩] at hstrip
    cases hstrip
  · intro hstuck
    cases hstrip : (ofList qualifiers).stripOnce? key with
    | none => rfl
    | some rest => exact absurd (takesOff_of_stripOnce? hstrip) (hstuck rest)

/-! ## All qualifiers -/

/-- As many steps as a key has characters come to an end. -/
theorem takesOff_stripAll {times : Nat} (h : key.length ≤ times) :
    Relation.ReflTransGen (TakesOff qualifiers) key ((ofList qualifiers).stripAll times key) ∧
      ∀ rest, ¬TakesOff qualifiers ((ofList qualifiers).stripAll times key) rest := by
  induction times generalizing key with
  | zero =>
    refine ⟨.refl, fun rest hrest => ?_⟩
    have hlt := hrest.length_lt
    rw [stripAll] at hlt
    omega
  | succ times ih =>
    rw [stripAll]
    cases hstrip : (ofList qualifiers).stripOnce? key with
    | none => exact ⟨.refl, stripOnce?_eq_none_iff.mp hstrip⟩
    | some rest =>
      have hstep := takesOff_of_stripOnce? hstrip
      have hlength : rest.length ≤ times := by
        have hlt := hstep.length_lt
        omega
      obtain ⟨hsteps, hstuck⟩ := ih hlength
      exact ⟨.head hstep hsteps, hstuck⟩

/-- Where there is no qualifier in front, nothing is taken off. -/
theorem stripAll_eq_self (h : ∀ rest, ¬TakesOff qualifiers key rest) (times : Nat) :
    (ofList qualifiers).stripAll times key = key := by
  cases times with
  | zero => rfl
  | succ times => rw [stripAll, stripOnce?_eq_none_iff.mpr h]

section

variable (h : Relation.ReflTransGen (TakesOff qualifiers) key rest)

include h

theorem suffix_of_steps : rest <:+ key := by
  induction h with
  | refl => exact List.suffix_rfl
  | tail _ hstep ih => exact hstep.suffix.trans ih

theorem tidy_of_steps (hkey : Tidy key) : Tidy rest := by
  induction h with
  | refl => exact hkey
  | tail _ hstep ih => exact hstep.tidy ih

/-- Taking off qualifiers leaves something of what is not empty. -/
theorem eq_nil_iff_of_steps : rest = [] ↔ key = [] := by
  constructor
  · intro hnil
    obtain heq | ⟨_, _, hstep⟩ := h.cases_tail
    · rw [← heq, hnil]
    · exact absurd hnil hstep.rest_ne_nil
  · intro hnil
    exact List.suffix_nil.mp (hnil ▸ suffix_of_steps h)

end

/-! ## Plain names -/

theorem upperChar_of_mem_plainName {name : List Char} {c : Char} (hc : c ∈ plainName name) :
    upperChar c = [c] := by
  obtain rfl | hc := mem_of_mem_collapse hc
  · exact upperChar_blank rfl
  · exact upperChar_of_mem_upper hc

theorem plainName_eq_nil_iff {name : List Char} : plainName name = [] ↔ allBlank name = true := by
  rw [plainName, collapse_eq_nil_iff, ← words_eq_nil_iff, words_upper, List.map_eq_nil_iff,
    words_eq_nil_iff]

/-- The plain form of a name depends on its words in upper case only. -/
theorem plainName_congr {name other : List Char}
    (h : (words name).map upper = (words other).map upper) : plainName name = plainName other := by
  rw [plainName, plainName, collapse, collapse, words_upper, words_upper, h]

/-- What is left of a plain name is a plain name. -/
theorem plainName_of_steps {name : List Char}
    (h : Relation.ReflTransGen (TakesOff qualifiers) (plainName name) key) :
    plainName key = key := by
  have hupper : upper key = key :=
    upper_eq_self fun c hc => upperChar_of_mem_plainName ((suffix_of_steps h).subset hc)
  rw [plainName, hupper]
  exact (tidy_of_steps h (tidy_collapse _)).collapse_eq

/-! ## Keys -/

theorem toList_key (n : Normalizer) (name : String) :
    (n.key name).toList = n.keyChars name.toList :=
  String.toList_ofList

/-- The key of a name is where the steps from its plain form come to an end. -/
theorem takesOff_key (qualifiers : List String) (name : String) :
    Relation.ReflTransGen (TakesOff qualifiers) (plainName name.toList)
        ((ofList qualifiers).key name).toList ∧
      ∀ rest, ¬TakesOff qualifiers ((ofList qualifiers).key name).toList rest := by
  rw [toList_key, keyChars]
  exact takesOff_stripAll (Nat.le_refl _)

theorem key_congr (n : Normalizer) {name other : String}
    (h : (words name.toList).map upper = (words other.toList).map upper) :
    n.key name = n.key other := by
  rw [key, key, keyChars, keyChars, plainName_congr h]

/-- Keys are canonical forms: the key of a key is the key; it is what is left of the name in upper
case with single spaces, which is nothing for blank names only, once no qualifier can be taken off
any more; and it depends on the words of the name in upper case only. -/
theorem key_canonical (qualifiers : List String) (name : String) :
    let n := ofList qualifiers
    n.key (n.key name) = n.key name ∧
      Tidy (n.key name).toList ∧
      (n.key name).toList <:+ plainName name.toList ∧
      (n.key name = "" ↔ isBlankText name = true) ∧
      Relation.ReflTransGen (TakesOff qualifiers) (plainName name.toList) (n.key name).toList ∧
      (∀ rest, ¬TakesOff qualifiers (n.key name).toList rest) ∧
      (∀ other : String, (words other.toList).map upper = (words name.toList).map upper →
        n.key other = n.key name) ∧
      (∀ other : String, words other.toList = words name.toList → n.key other = n.key name) ∧
      n.key (String.ofList (upper name.toList)) = n.key name := by
  intro n
  obtain ⟨hsteps, hstuck⟩ := takesOff_key qualifiers name
  refine ⟨?idempotent, tidy_of_steps hsteps (tidy_collapse _), suffix_of_steps hsteps, ?empty,
    hsteps, hstuck, fun other => n.key_congr, fun other h => n.key_congr (by rw [h]), ?upper⟩
  case idempotent =>
    rw [← String.toList_inj, toList_key, keyChars, plainName_of_steps hsteps]
    exact stripAll_eq_self hstuck _
  case empty =>
    rw [← String.toList_eq_nil_iff, eq_nil_iff_of_steps hsteps, plainName_eq_nil_iff, isBlankText]
  case upper =>
    refine n.key_congr ?_
    rw [String.toList_ofList, ← words_upper, ← words_upper, upper_upper]

example : (ofList ["Kota", "st."]).key " kota\u00a0St.ß " = "SS" := by decide +kernel

end Normalizer

end RegistryDedup
