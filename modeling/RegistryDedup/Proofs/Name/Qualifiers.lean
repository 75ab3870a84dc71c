import Mathlib.Data.List.Sort
import RegistryDedup.Proofs.Name.Normalizer

/-!
# The order of qualifiers

The qualifier with more bytes is tried before another, and of two of the same length the one that
comes first. Any two different texts are in this order one way and not the other, so that there is
only one way to put a set of qualifiers in order. A normalizer therefore knows nothing of the list
that it was made from but which qualifiers are in it.

- `triedBefore_iff`, `triedBefore_irrefl`, `triedBefore_trans`, `triedBefore_or`: a strict total
  order.
- `triedInOrder_insertQualifier`: the step; a qualifier is put in its place.
- `triedInOrder_qualifiers`, `ofList_congr`: the whole list is in order, and hence determined by
  what is in it.
- `ofList_canonical`: all that there is to know of the qualifiers of a normalizer.
-/

namespace RegistryDedup

open Text

variable {p q r : List Char} {ps : List (List Char)}

/-! ## The order -/

theorem triedBefore_iff : triedBefore p q = true ↔
    byteLength q < byteLength p ∨ byteLength p = byteLength q ∧ p < q := by
  simp [triedBefore]

theorem triedBefore_irrefl (p : List Char) : ¬triedBefore p p = true := by
  rw [triedBefore_iff]
  rintro (hlonger | ⟨-, hfirst⟩)
  · exact Nat.lt_irrefl _ hlonger
  · exact List.lt_irrefl p hfirst

theorem triedBefore_trans (hpq : triedBefore p q = true) (hqr : triedBefore q r = true) :
    triedBefore p r = true := by
  rw [triedBefore_iff] at hpq hqr ⊢
  obtain hpq | ⟨hpq, hfirst⟩ := hpq
  · left
    omega
  · obtain hqr | ⟨hqr, hsecond⟩ := hqr
    · left
      omega
    · right
      exact ⟨hpq.trans hqr, List.lt_trans hfirst hsecond⟩

/-- Of two different qualifiers one is tried before the other. -/
theorem triedBefore_or (hne : p ≠ q) : triedBefore p q = true ∨ triedBefore q p = true := by
  rw [triedBefore_iff, triedBefore_iff]
  rcases Nat.lt_trichotomy (byteLength p) (byteLength q) with hlength | hlength | hlength
  · exact .inr (.inl hlength)
  · -- Texts of the same length are told apart by their first different character.
    by_cases hpq : p < q
    · exact .inl (.inr ⟨hlength, hpq⟩)
    · by_cases hqp : q < p
      · exact .inr (.inr ⟨hlength.symm, hqp⟩)
      · exact absurd (List.le_antisymm hqp hpq) hne
  · exact .inl (.inl hlength)

/-! ## Lists in order -/

/-- Qualifiers in the order in which they are tried. -/
def TriedInOrder (ps : List (List Char)) : Prop :=
  ps.Pairwise fun p q => triedBefore p q = true

theorem TriedInOrder.nodup (h : TriedInOrder ps) : ps.Nodup := by
  refine h.imp ?_
  rintro p q hbefore rfl
  exact triedBefore_irrefl p hbefore

/-- There is one way only to put a set of qualifiers in order. -/
theorem TriedInOrder.eq_of_mem_iff {qs : List (List Char)} (hp : TriedInOrder ps)
    (hq : TriedInOrder qs) (h : ∀ p, p ∈ ps ↔ p ∈ qs) : ps = qs := by
  have hperm : ps.Perm qs := (List.perm_ext_iff_of_nodup hp.nodup hq.nodup).mpr h
  refine hperm.eq_of_pairwise ?_ hp hq
  intro p q _ _ hpq hqp
  exact absurd (triedBefore_trans hpq hqp) (triedBefore_irrefl p)

namespace Normalizer

variable {qualifiers other : List String}

/-- A qualifier that is put in its place is after those that are tried before it and before all
others. -/
theorem triedInOrder_insertQualifier (h : TriedInOrder ps) :
    TriedInOrder (insertQualifier q ps) := by
  induction ps with
  | nil => exact List.pairwise_singleton _ _
  | cons p ps ih =>
    obtain ⟨hfirst, hrest⟩ := List.pairwise_cons.mp h
    rw [insertQualifier]
    by_cases hsame : q = p
    · rw [if_pos hsame]
      exact h
    · rw [if_neg hsame]
      by_cases hbefore : triedBefore q p = true
      · rw [if_pos hbefore]
        refine List.pairwise_cons.mpr ⟨?_, h⟩
        intro r hr
        obtain rfl | hr := List.mem_cons.mp hr
        · exact hbefore
        · exact triedBefore_trans hbefore (hfirst r hr)
      · rw [if_neg hbefore]
        refine List.pairwise_cons.mpr ⟨?_, ih hrest⟩
        intro r hr
        obtain rfl | hr := mem_insertQualifier.mp hr
        · exact (triedBefore_or hsame).resolve_left hbefore
        · exact hfirst r hr

/-- The qualifiers of a normalizer are in the order in which they are tried. -/
theorem triedInOrder_qualifiers (qualifiers : List String) :
    TriedInOrder (ofList qualifiers).qualifiers := by
  have hfold : ∀ ps : List (List Char), TriedInOrder (ps.foldr insertQualifier []) := by
    intro ps
    induction ps with
    | nil => exact List.Pairwise.nil
    | cons p ps ih => exact triedInOrder_insertQualifier ih
  exact hfold _

/-- A normalizer has nothing but its qualifiers, and these are determined by what is in them. -/
theorem ofList_eq_iff : ofList other = ofList qualifiers ↔
    ∀ p, p ∈ (ofList other).qualifiers ↔ p ∈ (ofList qualifiers).qualifiers := by
  constructor
  · intro heq p
    rw [heq]
  · intro h
    have hsame :=
      (triedInOrder_qualifiers other).eq_of_mem_iff (triedInOrder_qualifiers qualifiers) h
    exact congrArg Normalizer.mk hsame

/-- A qualifier is a plain name already. -/
theorem plainName_of_mem (hp : p ∈ (ofList qualifiers).qualifiers) : plainName p = p := by
  obtain ⟨-, q, -, rfl⟩ := mem_qualifiers.mp hp
  -- Nothing is taken off it.
  have hnone : Relation.ReflTransGen (TakesOff qualifiers) (plainName q.toList)
    (plainName q.toList) := .refl
  exact plainName_of_steps hnone

/-- Whether two lists come to the same qualifiers: in upper case, with single spaces and less the
blank ones they are the same set. -/
def SameQualifiers (qualifiers other : List String) : Prop :=
  ∀ p, p ≠ [] →
    ((∃ q ∈ qualifiers, plainName q.toList = p) ↔ ∃ q ∈ other, plainName q.toList = p)

theorem ofList_congr (h : SameQualifiers qualifiers other) : ofList other = ofList qualifiers := by
  rw [ofList_eq_iff]
  intro p
  rw [mem_qualifiers, mem_qualifiers]
  exact and_congr_right fun hne => (h p hne).symm

theorem ofList_perm (h : other.Perm qualifiers) : ofList other = ofList qualifiers := by
  refine ofList_congr fun p _ => ?_
  simp only [h.mem_iff]

/-- The qualifiers of a normalizer make up the same normalizer again. -/
theorem ofList_qualifiers (qualifiers : List String) :
    ofList ((ofList qualifiers).qualifiers.map String.ofList) = ofList qualifiers := by
  rw [ofList_eq_iff]
  intro p
  rw [mem_qualifiers]
  constructor
  · rintro ⟨-, q, hq, rfl⟩
    obtain ⟨p, hp, rfl⟩ := List.mem_map.mp hq
    rwa [String.toList_ofList, plainName_of_mem hp]
  · intro hp
    refine ⟨(mem_qualifiers.mp hp).1, String.ofList p, List.mem_map_of_mem hp, ?_⟩
    rw [String.toList_ofList, plainName_of_mem hp]

/-- A normalizer depends on the set of its qualifiers only. It has those of the list that are not
blank, in upper case and with single spaces, each once and the one with more bytes first; it can be
made again from them; and any other list that comes to the same qualifiers makes the same
normalizer, so that it gives every name the same key. -/
theorem ofList_canonical (qualifiers : List String) :
    (∀ p, p ∈ (ofList qualifiers).qualifiers ↔
      p ≠ [] ∧ ∃ q ∈ qualifiers, plainName q.toList = p) ∧
    (ofList qualifiers).qualifiers.Nodup ∧
    (ofList qualifiers).qualifiers.Pairwise (fun p q =>
      byteLength q < byteLength p ∨ byteLength p = byteLength q ∧ p < q) ∧
    ofList ((ofList qualifiers).qualifiers.map String.ofList) = ofList qualifiers ∧
    ∀ other, SameQualifiers qualifiers other →
      (ofList other).qualifiers = (ofList qualifiers).qualifiers ∧
      ofList other = ofList qualifiers ∧
      ∀ name, (ofList other).key name = (ofList qualifiers).key name := by
  have horder : TriedInOrder (ofList qualifiers).qualifiers := triedInOrder_qualifiers qualifiers
  refine ⟨fun p => mem_qualifiers, horder.nodup, ?_, ofList_qualifiers qualifiers, ?_⟩
  · exact horder.imp triedBefore_iff.mp
  · intro other hsame
    have heq : ofList other = ofList qualifiers := ofList_congr hsame
    exact ⟨congrArg Normalizer.qualifiers heq, heq, fun name => by rw [heq]⟩

/-- Repetition, order, letter case and padding make no difference. In bytes `ÑU` is longer than
`KO`, although it has as many characters. -/
theorem ofList_canonical_sample :
    SameQualifiers ["ko", "Ñu", "ko  ta"] ["KO\tTA", " ", "ñU", " Ko ta ", "Ko"] ∧
      ofList ["KO\tTA", " ", "ñU", " Ko ta ", "Ko"] = ofList ["ko", "Ñu", "ko  ta"] ∧
      (ofList ["ko", "Ñu", "ko  ta"]).qualifiers = ["KO TA", "ÑU", "KO"].map String.toList := by
  have hsame : SameQualifiers ["ko", "Ñu", "ko  ta"] ["KO\tTA", " ", "ñU", " Ko ta ", "Ko"] := by
    have hplain : ["ko", "Ñu", "ko  ta"].map (fun q => plainName q.toList) =
          ["KO", "ÑU", "KO TA"].map String.toList ∧
        ["KO\tTA", " ", "ñU", " Ko ta ", "Ko"].map (fun q => plainName q.toList) =
          ["KO TA", "", "ÑU", "KO TA", "KO"].map String.toList := by
      decide +kernel
    intro p hp
    rw [← List.mem_map (f := fun q : String => plainName q.toList),
      ← List.mem_map (f := fun q : String => plainName q.toList), hplain.1, hplain.2]
    simp only [List.map_cons, List.map_nil, List.mem_cons, List.not_mem_nil, or_false]
    have hempty : p ≠ "".toList := hp
    tauto
  exact ⟨hsame, ((ofList_canonical _).2.2.2.2 _ hsame).2.1, by decide +kernel⟩

end Normalizer

end RegistryDedup
