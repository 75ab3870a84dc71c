import Mathlib.Data.String.Basic
import RegistryDedup.Proofs.Text.Utf8

/-!
# The order of texts and of their bytes

Texts are compared by their characters, and a text as it is stored by its bytes. The two orders are
one, since the bytes of a character with a greater number come later, whatever follows them.

- `utf8EncodeChar_append_lt`: two characters, whatever follows their bytes.
- `encode_lt_encode_iff`: the order of texts is that of their bytes.
- `mem_sortedTexts`, `pairwise_sortedTexts`: texts in ascending order.
-/

namespace RegistryDedup.Text

namespace Utf8

/-- The bytes of a character with a greater number come later, whatever follows them. -/
theorem utf8EncodeChar_append_lt {c d : Char} (h : c < d) (x y : List UInt8) :
    String.utf8EncodeChar c ++ x < String.utf8EncodeChar d ++ y := by
  have hcd : c.val.toNat < d.val.toNat := h
  have hd : d.val.toNat < 0x110000 := by
    have hvalid : d.toNat < 0xD800 ∨ (0xDFFF < d.toNat ∧ d.toNat < 0x110000) := d.valid
    have hcode : d.val.toNat = d.toNat := rfl
    omega
  unfold String.utf8EncodeChar
  generalize c.val.toNat = m at hcd
  generalize d.val.toNat = n at hcd hd
  dsimp only
  -- Each digit is what is left of the number by the digit before it.
  have hdigits : ∀ k : Nat, k / 4096 = k / 64 / 64 ∧ k / 262144 = k / 64 / 64 / 64 := fun k =>
    ⟨(Nat.div_div_eq_div_mul k 64 64).symm, by rw [Nat.div_div_eq_div_mul, Nat.div_div_eq_div_mul]⟩
  -- By the sizes of the numbers. The first byte tells them apart, and what follows is their digits.
  split_ifs <;> simp (disch := omega) only [List.cons_append, List.nil_append,
    List.cons_lt_cons_iff, UInt8.lt_iff_toNat_lt, ← UInt8.toNat_inj, toNat_ofNat_of_lt, hdigits]
  all_goals omega

theorem encode_lt_of_lt {s t : List Char} (h : s < t) : encode s < encode t := by
  induction h with
  | nil =>
    rename_i d t
    obtain ⟨first, rest, hbytes, -⟩ := exists_bytes d
    rw [encode_cons, hbytes]
    exact List.nil_lt_cons _ _
  | rel hlt =>
    rw [encode_cons, encode_cons]
    exact utf8EncodeChar_append_lt hlt _ _
  | cons _ ih =>
    rw [encode_cons, encode_cons]
    exact List.append_left_lt ih

/-- The order of texts is that of their bytes. -/
theorem encode_lt_encode_iff {a b : String} : encode a.toList < encode b.toList ↔ a < b := by
  refine ⟨fun h => ?_, fun h => encode_lt_of_lt (String.lt_iff_toList_lt.mp h)⟩
  rcases lt_trichotomy a b with hlt | rfl | hlt
  · exact hlt
  · exact absurd h (List.lt_irrefl _)
  · exact absurd (encode_lt_of_lt (String.lt_iff_toList_lt.mp hlt)) (List.lt_asymm h)

end Utf8

/-! ## Texts in ascending order -/

variable {x y : String} {xs ys : List String}

theorem mem_insertText : y ∈ insertText x ys ↔ y = x ∨ y ∈ ys := by
  induction ys with
  | nil => rw [insertText, List.mem_singleton, or_iff_left List.not_mem_nil]
  | cons z zs ih =>
    rw [insertText]
    split
    · rw [List.mem_cons]
    · split
      · next heq => rw [List.mem_cons, heq, ← or_assoc, or_self]
      · rw [List.mem_cons, ih, List.mem_cons, or_left_comm]

theorem mem_sortedTexts : y ∈ sortedTexts xs ↔ y ∈ xs := by
  induction xs with
  | nil => rfl
  | cons x xs ih =>
    rw [sortedTexts, List.foldr_cons, mem_insertText, List.mem_cons]
    exact or_congr_right ih

theorem pairwise_insertText (h : ys.Pairwise (· < ·)) : (insertText x ys).Pairwise (· < ·) := by
  induction ys with
  | nil => exact List.pairwise_singleton _ _
  | cons z zs ih =>
    rw [List.pairwise_cons] at h
    rw [insertText]
    split
    · next hlt =>
      refine List.pairwise_cons.mpr ⟨fun y hy => ?_, List.pairwise_cons.mpr h⟩
      rcases List.mem_cons.mp hy with rfl | hy
      · exact hlt
      · exact hlt.trans (h.1 y hy)
    · split
      · exact List.pairwise_cons.mpr h
      · next hnot hne =>
        -- What is neither smaller nor the same is greater.
        have hgreater : z < x := (lt_trichotomy x z).resolve_left hnot |>.resolve_left hne
        refine List.pairwise_cons.mpr ⟨fun y hy => ?_, ih h.2⟩
        rcases mem_insertText.mp hy with rfl | hy
        · exact hgreater
        · exact h.1 y hy

/-- Texts are in ascending order, and none is there twice. -/
theorem pairwise_sortedTexts (xs : List String) : (sortedTexts xs).Pairwise (· < ·) := by
  induction xs with
  | nil => exact .nil
  | cons x xs ih => exact pairwise_insertText ih

end RegistryDedup.Text
