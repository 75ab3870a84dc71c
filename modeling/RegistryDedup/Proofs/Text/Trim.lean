import RegistryDedup.Proofs.Text.Blank

/-!
# Blanks at the ends of a text

What is left of a text without the blanks at its ends is the one text between them that neither
begins nor ends with a blank.

- `Flush`: a text that neither begins nor ends with a blank.
- `Padded`: a text with blanks around another one.
- `trim_eq_iff`: what is left of a text, without a reference to how it is found.
-/

namespace RegistryDedup.Text

variable {s t before after : List Char} {c : Char}

theorem allBlank_cons : allBlank (c :: s) = true ↔ isBlank c = true ∧ allBlank s = true := by
  rw [allBlank, allBlank, List.all_cons, Bool.and_eq_true]

theorem allBlank_append :
    allBlank (s ++ t) = true ↔ allBlank s = true ∧ allBlank t = true := by
  rw [allBlank, allBlank, allBlank, List.all_append, Bool.and_eq_true]

/-- A character that is no blank is not among blanks. -/
theorem not_mem_of_allBlank (hs : allBlank s = true) (hc : isBlank c = false) : c ∉ s := by
  intro hmem
  rw [allBlank, List.all_eq_true] at hs
  rw [hs c hmem] at hc
  cases hc

/-- A text that neither begins nor ends with a blank. -/
structure Flush (s : List Char) : Prop where
  head : ∀ c ∈ s.head?, isBlank c = false
  last : ∀ c ∈ s.getLast?, isBlank c = false

/-- A text without blanks. -/
theorem Visible.flush (hs : Visible s) : Flush s where
  head c hc := hs c (List.mem_of_mem_head? hc)
  last c hc := hs c (List.mem_of_mem_getLast? hc)

/-- Texts that are not empty and neither begin nor end with a blank, with any text between them. -/
theorem Flush.append (hs : Flush s) (hne : s ≠ []) (ht : Flush t) (hne' : t ≠ [])
    (between : List Char) : Flush (s ++ between ++ t) where
  head c hc := by
    rw [List.append_assoc, List.head?_append_of_ne_nil _ hne] at hc
    exact hs.head c hc
  last c hc := by
    rw [List.getLast?_append_of_ne_nil _ hne'] at hc
    exact ht.last c hc

/-! ## The start -/

theorem trimStart_append_blank (hbefore : allBlank before = true) (s : List Char) :
    trimStart (before ++ s) = trimStart s := by
  induction before with
  | nil => rfl
  | cons b before ih =>
    rw [allBlank_cons] at hbefore
    rw [trimStart, List.cons_append, List.dropWhile_cons_of_pos hbefore.1]
    exact ih hbefore.2

theorem trimStart_eq_self (hs : ∀ c ∈ s.head?, isBlank c = false) : trimStart s = s := by
  cases s with
  | nil => rfl
  | cons c s => exact trimStart_cons (hs c rfl) s

theorem head_trimStart (s : List Char) : ∀ c ∈ (trimStart s).head?, isBlank c = false := by
  induction s with
  | nil => simp [trimStart]
  | cons c s ih =>
    by_cases hc : isBlank c = true
    · rw [trimStart, List.dropWhile_cons_of_pos hc]
      exact ih
    · intro d hd
      rw [Bool.not_eq_true] at hc
      rw [trimStart_cons hc, List.head?_cons, Option.mem_some_iff] at hd
      rw [← hd, hc]

theorem exists_trimStart (s : List Char) :
    ∃ before, allBlank before = true ∧ s = before ++ trimStart s := by
  refine ⟨s.takeWhile isBlank, List.all_takeWhile, ?_⟩
  rw [trimStart, List.takeWhile_append_dropWhile]

/-! ## The end -/

theorem trimEnd_cons_of_ne_nil (hs : trimEnd s ≠ []) : trimEnd (c :: s) = c :: trimEnd s := by
  obtain ⟨d, ds, hds⟩ := List.exists_cons_of_ne_nil hs
  rw [trimEnd, hds]

theorem trimEnd_cons_of_nil (hs : trimEnd s = []) :
    trimEnd (c :: s) = if isBlank c then [] else [c] := by
  rw [trimEnd, hs]

theorem trimEnd_of_allBlank (hs : allBlank s = true) : trimEnd s = [] := by
  induction s with
  | nil => rfl
  | cons c s ih =>
    rw [allBlank_cons] at hs
    rw [trimEnd_cons_of_nil (ih hs.2), if_pos hs.1]

theorem trimEnd_append_blank (s : List Char) (hafter : allBlank after = true) :
    trimEnd (s ++ after) = trimEnd s := by
  induction s with
  | nil => exact trimEnd_of_allBlank hafter
  | cons c s ih => rw [List.cons_append, trimEnd, trimEnd, ih]

theorem trimEnd_eq_self (hs : ∀ c ∈ s.getLast?, isBlank c = false) : trimEnd s = s := by
  induction s with
  | nil => rfl
  | cons c s ih =>
    by_cases hne : s = []
    · subst hne
      rw [trimEnd_cons_of_nil rfl, hs c rfl]
      rfl
    · rw [List.getLast?_cons_of_ne_nil hne] at hs
      have hrest : trimEnd s = s := ih hs
      rw [trimEnd_cons_of_ne_nil (by rwa [hrest]), hrest]

/-- What is taken off is blank, and it is all that is blank at the end. -/
theorem exists_trimEnd (s : List Char) : ∃ after, allBlank after = true ∧
    s = trimEnd s ++ after ∧ ∀ c ∈ (trimEnd s).getLast?, isBlank c = false := by
  induction s with
  | nil => exact ⟨[], rfl, rfl, by simp [trimEnd]⟩
  | cons c s ih =>
    obtain ⟨after, hafter, hs, hlast⟩ := ih
    by_cases hne : trimEnd s = []
    · rw [trimEnd_cons_of_nil hne]
      rw [hne, List.nil_append] at hs
      by_cases hc : isBlank c = true
      · rw [if_pos hc]
        exact ⟨c :: s, by rw [allBlank_cons, hs]; exact ⟨hc, hafter⟩, rfl, by simp⟩
      · rw [if_neg hc]
        refine ⟨s, by rwa [hs], rfl, fun d hd => ?_⟩
        rw [List.getLast?_singleton, Option.mem_some_iff] at hd
        rwa [← hd, ← Bool.not_eq_true]
    · rw [trimEnd_cons_of_ne_nil hne]
      refine ⟨after, hafter, by rw [List.cons_append, ← hs], ?_⟩
      rwa [List.getLast?_cons_of_ne_nil hne]

/-! ## Both ends -/

/-- A text is another one with blanks around it. -/
def Padded (inner outer : List Char) : Prop :=
  ∃ before after, allBlank before = true ∧ allBlank after = true ∧ outer = before ++ inner ++ after

namespace Padded

variable {inner outer : List Char}

theorem refl (s : List Char) : Padded s s :=
  ⟨[], [], rfl, rfl, by simp⟩

theorem blank_append (h : Padded inner outer) (hbefore : allBlank before = true) :
    Padded inner (before ++ outer) := by
  obtain ⟨first, last, hfirst, hlast, rfl⟩ := h
  exact ⟨before ++ first, last, allBlank_append.mpr ⟨hbefore, hfirst⟩, hlast, by simp⟩

theorem append_blank (h : Padded inner outer) (hafter : allBlank after = true) :
    Padded inner (outer ++ after) := by
  obtain ⟨first, last, hfirst, hlast, rfl⟩ := h
  exact ⟨first, last ++ after, hfirst, allBlank_append.mpr ⟨hlast, hafter⟩, by simp⟩

/-- A character that is no blank is not in the blanks around a text. -/
theorem not_mem (h : Padded inner outer) (hc : isBlank c = false) (hnot : c ∉ inner) :
    c ∉ outer := by
  obtain ⟨first, last, hfirst, hlast, rfl⟩ := h
  simp [hnot, not_mem_of_allBlank hfirst hc, not_mem_of_allBlank hlast hc]

/-- Blanks around a text that has none at its ends do not count. -/
theorem trim_eq (h : Padded inner outer) (hinner : Flush inner) : trim outer = inner := by
  obtain ⟨before, after, hbefore, hafter, rfl⟩ := h
  rw [trim, List.append_assoc, trimStart_append_blank hbefore]
  -- With nothing in between, the blanks at the end are taken from the start as well.
  by_cases hne : inner = []
  · subst hne
    have hnone : trimStart after = [] := by
      have hblank := trimStart_append_blank hafter []
      rwa [List.append_nil] at hblank
    rw [List.nil_append, hnone]
    rfl
  · have hhead : ∀ c ∈ (inner ++ after).head?, isBlank c = false := by
      rw [List.head?_append_of_ne_nil _ hne]
      exact hinner.head
    rw [trimStart_eq_self hhead, trimEnd_append_blank inner hafter, trimEnd_eq_self hinner.last]

end Padded

theorem flush_trim (s : List Char) : Flush (trim s) where
  head c hc := by
    obtain ⟨after, -, hend, -⟩ := exists_trimEnd (trimStart s)
    have hne : trim s ≠ [] := by
      intro hnil
      rw [hnil] at hc
      cases hc
    refine head_trimStart s c ?_
    rw [hend]
    show c ∈ (trim s ++ after).head?
    rwa [List.head?_append_of_ne_nil _ hne]
  last := by
    obtain ⟨-, -, -, hlast⟩ := exists_trimEnd (trimStart s)
    exact hlast

/-- Around what is left of a text there were blanks only. -/
theorem padded_trim (s : List Char) : Padded (trim s) s := by
  obtain ⟨before, hbefore, hstart⟩ := exists_trimStart s
  obtain ⟨after, hafter, hend, -⟩ := exists_trimEnd (trimStart s)
  refine ⟨before, after, hbefore, hafter, ?_⟩
  calc s = before ++ trimStart s := hstart
    _ = before ++ (trim s ++ after) := congrArg (before ++ ·) hend
    _ = before ++ trim s ++ after := (List.append_assoc ..).symm

/-- What is left of a text is what stands in it between blanks and neither begins nor ends with
one. -/
theorem trim_eq_iff : trim s = t ↔ Flush t ∧ Padded t s := by
  constructor
  · rintro rfl
    exact ⟨flush_trim s, padded_trim s⟩
  · rintro ⟨ht, hpadded⟩
    exact hpadded.trim_eq ht

/-- Nothing is left of a text just where there are blanks only. -/
theorem trim_eq_nil_iff : trim s = [] ↔ allBlank s = true := by
  constructor
  · intro hnil
    obtain ⟨before, after, hbefore, hafter, hs⟩ := padded_trim s
    rw [hs, hnil, List.append_nil, allBlank_append]
    exact ⟨hbefore, hafter⟩
  · intro hs
    exact Padded.trim_eq ⟨s, [], hs, rfl, by simp⟩ ⟨by simp, by simp⟩

end RegistryDedup.Text
