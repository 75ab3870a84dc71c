import RegistryDedup.Proofs.Text.Blank
import RegistryDedup.Text.Split

/-!
# Texts taken apart and put together

- `splitOn_append`: the parts of a text with a separator in it are the parts before it and the parts
  after it. By `splitOn_joinWith` parts that are put together are those of the text.
- `cutAtFirst_eq_some_iff`: the text before and after the first separator.
- `replaceAll_singleton`: a character replaced, wherever it is.
- `cutAtLast_eq_some`, `unended`: what follows the last separator, and the last line feed.
- `linesOf_append_break`, `exists_linesOf_append`: the lines of a text that goes on.
- `afterLead_eq_some`: a text that begins with another.
-/

namespace RegistryDedup.Text

variable {sep : Char} {s before after : List Char}

/-! ## Parts -/

theorem splitOn_ne_nil (sep : Char) (s : List Char) : splitOn sep s ≠ [] := by
  cases s with
  | nil => simp [splitOn]
  | cons c s =>
    rw [splitOn]
    split
    · exact List.cons_ne_nil _ _
    · split <;> exact List.cons_ne_nil _ _

theorem splitOn_of_not_mem (h : sep ∉ s) : splitOn sep s = [s] := by
  induction s with
  | nil => rfl
  | cons c s ih =>
    rw [List.mem_cons, not_or] at h
    rw [splitOn, if_neg (Ne.symm h.1), ih h.2]

/-- The parts before a separator and the parts after it. -/
theorem splitOn_append (sep : Char) (s t : List Char) :
    splitOn sep (s ++ sep :: t) = splitOn sep s ++ splitOn sep t := by
  induction s with
  | nil => simp [splitOn]
  | cons c s ih =>
    rw [List.cons_append, splitOn, splitOn, ih]
    by_cases hc : c = sep
    · rw [if_pos hc, if_pos hc, List.cons_append]
    · rw [if_neg hc, if_neg hc]
      obtain ⟨part, parts, hparts⟩ := List.exists_cons_of_ne_nil (splitOn_ne_nil sep s)
      rw [hparts]
      rfl

/-- A text taken apart is put together again. -/
theorem joinWith_splitOn (sep : Char) (s : List Char) : joinWith [sep] (splitOn sep s) = s := by
  induction s with
  | nil => rfl
  | cons c s ih =>
    obtain ⟨part, parts, hparts⟩ := List.exists_cons_of_ne_nil (splitOn_ne_nil sep s)
    rw [hparts] at ih
    rw [splitOn, hparts]
    by_cases hc : c = sep
    · rw [if_pos hc, joinWith_cons (List.cons_ne_nil part parts), ih, hc]
      rfl
    · rw [if_neg hc]
      show joinWith [sep] ((c :: part) :: parts) = c :: s
      rw [← ih]
      cases parts <;> rfl

/-- Parts without separators in them, put together with separators between them. -/
theorem splitOn_joinWith {parts : List (List Char)} (hne : parts ≠ [])
    (h : ∀ part ∈ parts, sep ∉ part) : splitOn sep (joinWith [sep] parts) = parts := by
  induction parts with
  | nil => exact absurd rfl hne
  | cons part parts ih =>
    rw [List.forall_mem_cons] at h
    by_cases hlast : parts = []
    · subst hlast
      exact splitOn_of_not_mem h.1
    · rw [joinWith_cons hlast, List.append_assoc, List.singleton_append, splitOn_append,
        splitOn_of_not_mem h.1, ih hlast h.2, List.singleton_append]

/-! ## The first separator -/

theorem cutAtFirst_eq_some_iff :
    cutAtFirst sep s = some (before, after) ↔ s = before ++ sep :: after ∧ sep ∉ before := by
  induction s generalizing before with
  | nil => simp [cutAtFirst]
  | cons c s ih =>
    rw [cutAtFirst]
    by_cases hc : c = sep
    · subst hc
      rw [if_pos rfl, Option.some.injEq, Prod.mk.injEq]
      constructor
      · rintro ⟨rfl, rfl⟩
        exact ⟨rfl, List.not_mem_nil⟩
      · rintro ⟨heq, hnot⟩
        cases before with
        | nil => exact ⟨rfl, (List.cons.inj heq).2⟩
        | cons d before => exact absurd ((List.cons.inj heq).1 ▸ List.mem_cons_self) hnot
    · rw [if_neg hc]
      constructor
      · intro h
        obtain ⟨⟨front, back⟩, hcut, hpair⟩ := Option.map_eq_some_iff.mp h
        obtain ⟨rfl, rfl⟩ := Prod.mk.inj hpair
        obtain ⟨rfl, hnot⟩ := ih.mp hcut
        exact ⟨rfl, List.not_mem_cons_of_ne_of_not_mem (Ne.symm hc) hnot⟩
      · rintro ⟨heq, hnot⟩
        cases before with
        | nil => exact absurd (List.cons.inj heq).1 hc
        | cons d before =>
          obtain ⟨rfl, hrest⟩ := List.cons.inj heq
          rw [ih.mpr ⟨hrest, fun hmem => hnot (List.mem_cons_of_mem _ hmem)⟩]
          rfl

/-! ## Replacements -/

/-- Every occurrence of one character replaced. -/
theorem replaceAll_singleton (c : Char) (by' s : List Char) :
    replaceAll [c] by' s = s.flatMap fun d => if c = d then by' else [d] := by
  unfold replaceAll
  induction s with
  | nil => rfl
  | cons d s ih =>
    rw [List.flatMap_cons, ← ih]
    by_cases hd : c = d
    · simp [replaceFrom, afterLead, hd]
    · simp [replaceFrom, afterLead, hd]

/-! ## The last separator -/

theorem cutAtLast_eq_none (h : cutAtLast sep s = none) : sep ∉ s := by
  induction s with
  | nil => exact List.not_mem_nil
  | cons c s ih =>
    rw [cutAtLast] at h
    cases hcut : cutAtLast sep s with
    | none =>
      rw [hcut] at h
      by_cases hc : c = sep
      · simp [hc] at h
      · exact List.not_mem_cons_of_ne_of_not_mem (Ne.symm hc) (ih hcut)
    | some pair =>
      rw [hcut] at h
      cases h

theorem cutAtLast_eq_some (h : cutAtLast sep s = some (before, after)) :
    s = before ++ sep :: after ∧ sep ∉ after := by
  induction s generalizing before with
  | nil => cases h
  | cons c s ih =>
    rw [cutAtLast] at h
    cases hcut : cutAtLast sep s with
    | none =>
      rw [hcut] at h
      by_cases hc : c = sep
      · simp only [hc, if_true, Option.some.injEq, Prod.mk.injEq] at h
        obtain ⟨rfl, rfl⟩ := h
        exact ⟨by rw [hc]; rfl, cutAtLast_eq_none hcut⟩
      · simp [hc] at h
    | some pair =>
      rw [hcut] at h
      cases h
      obtain ⟨rfl, hnot⟩ := ih hcut
      exact ⟨rfl, hnot⟩

/-- What follows the last line feed of a text; all of it where there is none. -/
def unended (text : List Char) : List Char :=
  match cutAtLast '\n' text with
  | some (_, after) => after
  | none => text

theorem not_mem_unended (text : List Char) : '\n' ∉ unended text := by
  unfold unended
  split
  · next hcut => exact (cutAtLast_eq_some hcut).2
  · next hcut => exact cutAtLast_eq_none hcut

/-! ## Lines -/

/-- An ended line without a carriage return at its end. -/
def withoutReturn (line : List Char) : List Char :=
  if line.getLast? = some '\r' then line.dropLast else line

/-- The lines before a line feed and the lines after it. -/
theorem linesOf_append_break (s t : List Char) :
    linesOf (s ++ '\n' :: t) = (splitOn '\n' s).map withoutReturn ++ linesOf t := by
  unfold linesOf
  rw [splitOn_append, List.reverse_append]
  cases hlast : (splitOn '\n' t).reverse with
  | nil => exact absurd (List.reverse_eq_nil_iff.mp hlast) (splitOn_ne_nil _ _)
  | cons last ended =>
    dsimp only [List.cons_append]
    rw [List.reverse_append, List.reverse_reverse, List.map_append]
    by_cases hempty : last.isEmpty = true
    · rw [if_pos hempty, if_pos hempty]
      rfl
    · rw [if_neg hempty, if_neg hempty, List.append_assoc]
      rfl

/-- A text without a line feed is one line, unless it is empty. -/
theorem linesOf_of_not_mem {line : List Char} (h : '\n' ∉ line) :
    linesOf line = if line.isEmpty then [] else [line] := by
  unfold linesOf
  rw [splitOn_of_not_mem h]
  rfl

/-- A line that is ended and has no carriage return at its end. -/
theorem linesOf_cons {line : List Char} (h : '\n' ∉ line) (hreturn : line.getLast? ≠ some '\r')
    (t : List Char) : linesOf (line ++ '\n' :: t) = line :: linesOf t := by
  rw [linesOf_append_break, splitOn_of_not_mem h, List.map_singleton, withoutReturn,
    if_neg hreturn, List.singleton_append]

/-- Lines without line breaks in them are the lines of the text they make up. -/
theorem linesOf_flatMap {lines : List (List Char)}
    (h : ∀ line ∈ lines, '\n' ∉ line ∧ '\r' ∉ line) :
    linesOf (lines.flatMap (· ++ ['\n'])) = lines := by
  induction lines with
  | nil => rfl
  | cons line lines ih =>
    rw [List.forall_mem_cons] at h
    have hreturn : line.getLast? ≠ some '\r' := fun hlast => h.1.2 (List.mem_of_getLast? hlast)
    rw [List.flatMap_cons, List.append_assoc, List.singleton_append, linesOf_cons h.1.1 hreturn,
      ih h.2]

/-- What comes after a text is in lines of its own but for what is not ended of the text. -/
theorem exists_linesOf_append (text : List Char) : ∃ lines, ∀ more,
    linesOf (text ++ more) = lines ++ linesOf (unended text ++ more) := by
  unfold unended
  split
  · next before after hcut =>
    refine ⟨(splitOn '\n' before).map withoutReturn, fun more => ?_⟩
    rw [(cutAtLast_eq_some hcut).1, List.append_assoc, List.cons_append, linesOf_append_break]
  · exact ⟨[], fun more => rfl⟩

/-! ## Beginnings -/

theorem afterLead_eq_some {lead rest : List Char} :
    afterLead lead s = some rest ↔ s = lead ++ rest := by
  induction lead generalizing s with
  | nil => simp [afterLead]
  | cons l lead ih =>
    cases s with
    | nil => simp [afterLead]
    | cons c s =>
      rw [afterLead, List.cons_append, List.cons.injEq]
      by_cases hl : l = c
      · rw [if_pos hl, ih]
        simp [hl]
      · rw [if_neg hl]
        simp [Ne.symm hl]

theorem afterLead_append (lead rest : List Char) : afterLead lead (lead ++ rest) = some rest :=
  afterLead_eq_some.mpr rfl

end RegistryDedup.Text
