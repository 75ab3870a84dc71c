import Mathlib.Data.List.Chain
import Mathlib.Data.List.TakeWhile
import RegistryDedup.Text.Blank
import RegistryDedup.Text.Integer

/-!
# Words and blanks

All that has to be known of the words of a text follows from `words_append_blank`: a blank separates
the words before it from the words after it.

- `words_induction`: a text is a word, or a word, a blank and another text.
- `text_induction`: a text is empty, a word, or two texts with a blank between them.
- `Tidy`: a text with single spaces between its words and nothing else that is blank. By
  `Tidy.collapse_eq` these are the texts that stay as they are when they are collapsed.
-/

namespace RegistryDedup.Text

variable {s t w : List Char} {b c : Char}

/-! ## Characters -/

/-- A digit is no blank. -/
theorem isBlank_of_isDigit {c : Char} (h : isDigit c = true) : isBlank c = false := by
  have hrange := Char.isDigit_iff_toNat.mp h
  have hlow : 48 ≤ c.toNat := hrange.1
  have hhigh : c.toNat ≤ 57 := hrange.2
  unfold isBlank
  simp only [Bool.or_eq_false_iff, Bool.and_eq_false_iff, decide_eq_false_iff_not,
    beq_eq_false_iff_ne]
  omega

/-- A text that begins with something else than a blank. -/
theorem trimStart_cons {c : Char} (h : isBlank c = false) (s : List Char) :
    trimStart (c :: s) = c :: s := by
  unfold trimStart
  rw [List.dropWhile_cons, h]
  rfl

/-! ## Words -/

/-- A text without blanks. -/
def Visible (s : List Char) : Prop :=
  ∀ c ∈ s, isBlank c = false

theorem words_cons (c : Char) (s : List Char) : words (c :: s) =
    if isBlank c then words s
    else
      match s, words s with
      | d :: _, w :: ws => if isBlank d then [c] :: w :: ws else (c :: w) :: ws
      | _, ws => [c] :: ws :=
  rfl

theorem words_cons_blank (hb : isBlank b = true) (s : List Char) : words (b :: s) = words s := by
  rw [words_cons, if_pos hb]

/-- A character between a blank, or the end of the text, and what is before it. -/
theorem words_cons_visible (hc : isBlank c = false) (hs : ∀ d ∈ s.head?, isBlank d = true) :
    words (c :: s) = [c] :: words s := by
  rw [words_cons, hc, if_neg Bool.false_ne_true]
  cases s with
  | nil => rfl
  | cons d s =>
    have hd : isBlank d = true := hs d rfl
    cases words (d :: s) with
    | nil => rfl
    | cons w ws => exact if_pos hd

/-- A word goes as far as the next blank. -/
theorem words_append_visible (hw : Visible w) (hne : w ≠ [])
    (hs : ∀ d ∈ s.head?, isBlank d = true) : words (w ++ s) = w :: words s := by
  induction w with
  | nil => exact absurd rfl hne
  | cons c w ih =>
    rw [Visible, List.forall_mem_cons] at hw
    cases w with
    | nil => exact words_cons_visible hw.1 hs
    | cons d w =>
      have hd : isBlank d = false := hw.2 d List.mem_cons_self
      have hrest := ih hw.2 (List.cons_ne_nil d w)
      rw [List.cons_append] at hrest
      rw [List.cons_append, List.cons_append, words_cons, hw.1, if_neg Bool.false_ne_true, hrest]
      exact if_neg (by rw [hd]; exact Bool.false_ne_true)

/-- A text without blanks is one word, unless it is empty. -/
theorem words_visible (hw : Visible w) (hne : w ≠ []) : words w = [w] := by
  have hall := words_append_visible (s := []) hw hne (by simp)
  rwa [List.append_nil] at hall

theorem words_visible_blank (hw : Visible w) (hb : isBlank b = true) (s : List Char) :
    words (w ++ b :: s) = words w ++ words s := by
  by_cases hne : w = []
  · subst hne
    exact words_cons_blank hb s
  · rw [words_append_visible hw hne (by simpa using hb), words_visible hw hne, words_cons_blank hb]
    rfl

/-- A text has no blanks, or it has a first blank with another text after it. -/
theorem words_induction {P : List Char → Prop} (visible : ∀ w, Visible w → P w)
    (blank : ∀ w b s, Visible w → isBlank b = true → P s → P (w ++ b :: s)) (s : List Char) :
    P s := by
  have hparts := List.takeWhile_append_dropWhile (p := fun c => !isBlank c) (l := s)
  have hw : Visible (s.takeWhile fun c => !isBlank c) := by
    intro c hc
    simpa using List.mem_takeWhile_imp hc
  cases hrest : s.dropWhile fun c => !isBlank c with
  | nil =>
    rw [hrest, List.append_nil] at hparts
    rw [← hparts]
    exact visible _ hw
  | cons b t =>
    have hb : isBlank b = true := by
      have hhead := List.head_dropWhile_not (p := fun c => !isBlank c) (l := s) (by simp [hrest])
      simpa [hrest] using hhead
    have hlength : t.length < s.length := by
      rw [← hparts, hrest, List.length_append, List.length_cons]
      omega
    rw [← hparts, hrest]
    exact blank _ b t hw hb (words_induction visible blank t)
termination_by s.length

/-- A blank separates the words before it from the words after it. -/
theorem words_append_blank (hb : isBlank b = true) (s t : List Char) :
    words (s ++ b :: t) = words s ++ words t := by
  induction s using words_induction with
  | visible w hw => exact words_visible_blank hw hb t
  | blank w b' s hw hb' ih =>
    rw [List.append_assoc, List.cons_append, words_visible_blank hw hb', ih,
      words_visible_blank hw hb', List.append_assoc]

/-- A text is empty, a word, or two texts with a blank between them. -/
theorem text_induction {P : List Char → Prop} (empty : P [])
    (word : ∀ w, Visible w → w ≠ [] → P w)
    (blank : ∀ s b t, isBlank b = true → P s → P t → P (s ++ b :: t)) (s : List Char) : P s := by
  have hvisible : ∀ w, Visible w → P w := by
    intro w hw
    by_cases hne : w = []
    · rwa [hne]
    · exact word w hw hne
  induction s using words_induction with
  | visible w hw => exact hvisible w hw
  | blank w b t hw hb ih => exact blank w b t hb (hvisible w hw) ih

/-- A word is not empty and has no blanks. -/
theorem visible_of_mem_words (h : w ∈ words s) : w ≠ [] ∧ Visible w := by
  induction s using text_induction with
  | empty => cases h
  | word v hv hne =>
    rw [words_visible hv hne, List.mem_singleton] at h
    subst h
    exact ⟨hne, hv⟩
  | blank s b t hb ih ih' =>
    rw [words_append_blank hb, List.mem_append] at h
    exact h.elim ih ih'

theorem mem_of_mem_words (hw : w ∈ words s) (hc : c ∈ w) : c ∈ s := by
  induction s using text_induction with
  | empty => cases hw
  | word v hv hne =>
    rw [words_visible hv hne, List.mem_singleton] at hw
    rwa [← hw]
  | blank s b t hb ih ih' =>
    rw [words_append_blank hb, List.mem_append] at hw
    rw [List.mem_append, List.mem_cons]
    exact hw.imp ih fun hlater => .inr (ih' hlater)

/-- There are no words just where there are blanks only. -/
theorem words_eq_nil_iff : words s = [] ↔ allBlank s = true := by
  induction s using text_induction with
  | empty => exact iff_of_true rfl rfl
  | word w hw hne =>
    obtain ⟨c, w, rfl⟩ := List.exists_cons_of_ne_nil hne
    rw [words_visible hw hne, allBlank, List.all_cons, hw c List.mem_cons_self]
    simp
  | blank s b t hb ih ih' =>
    have hall : allBlank (s ++ b :: t) = (allBlank s && allBlank t) := by
      unfold allBlank
      rw [List.all_append, List.all_cons, hb, Bool.true_and]
    rw [words_append_blank hb, List.append_eq_nil_iff, hall, Bool.and_eq_true]
    exact and_congr ih ih'

theorem joinWith_cons {between : List Char} {ws : List (List Char)} (hws : ws ≠ [])
    (w : List Char) : joinWith between (w :: ws) = w ++ between ++ joinWith between ws := by
  obtain ⟨v, ws, rfl⟩ := List.exists_cons_of_ne_nil hws
  rfl

theorem mem_joinWith {between : List Char} {ws : List (List Char)} (hc : c ∈ joinWith between ws) :
    c ∈ between ∨ ∃ w ∈ ws, c ∈ w := by
  induction ws with
  | nil => cases hc
  | cons w ws ih =>
    by_cases hws : ws = []
    · subst hws
      exact .inr ⟨w, List.mem_cons_self, hc⟩
    · rw [joinWith_cons hws, List.mem_append, List.mem_append] at hc
      obtain (hc | hc) | hc := hc
      · exact .inr ⟨w, List.mem_cons_self, hc⟩
      · exact .inl hc
      · exact (ih hc).imp_right fun ⟨v, hv, hcv⟩ => ⟨v, List.mem_cons_of_mem _ hv, hcv⟩

/-- A collapsed text has no characters that the text does not have, but for spaces. -/
theorem mem_of_mem_collapse (hc : c ∈ collapse s) : c = ' ' ∨ c ∈ s := by
  obtain hc | ⟨w, hw, hc⟩ := mem_joinWith hc
  · exact .inl (List.mem_singleton.mp hc)
  · exact .inr (mem_of_mem_words hw hc)

/-! ## Tidy texts -/

/-- A text with single spaces between its words and nothing else that is blank. -/
structure Tidy (s : List Char) : Prop where
  head : ∀ c ∈ s.head?, isBlank c = false
  last : ∀ c ∈ s.getLast?, isBlank c = false
  single : s.IsChain fun a b => isBlank a = false ∨ isBlank b = false
  space : ∀ c ∈ s, isBlank c = true → c = ' '

namespace Tidy

theorem nil : Tidy [] := ⟨by simp, by simp, .nil, by simp⟩

theorem visible (hw : Visible w) : Tidy w where
  head c hc := hw c (List.mem_of_mem_head? hc)
  last c hc := hw c (List.mem_of_mem_getLast? hc)
  single := by
    refine List.Pairwise.isChain (List.pairwise_of_forall_mem_list ?_)
    intro a ha b _
    exact .inl (hw a ha)
  space c hc hb := by
    rw [hw c hc] at hb
    cases hb

/-- A word, a space and a tidy text. -/
theorem append_space (hw : Visible w) (hne : w ≠ []) (hs : Tidy s) (hs' : s ≠ []) :
    Tidy (w ++ ' ' :: s) where
  head c hc := by
    rw [List.head?_append_of_ne_nil _ hne] at hc
    exact hw c (List.mem_of_mem_head? hc)
  last c hc := by
    rw [List.getLast?_append_of_ne_nil _ (List.cons_ne_nil _ _),
      List.getLast?_cons_of_ne_nil hs'] at hc
    exact hs.last c hc
  single := by
    refine (visible hw).single.append (List.IsChain.cons hs.single fun d hd => ?_) ?_
    · exact .inr (hs.head d hd)
    · intro a ha b _
      exact .inl (hw a (List.mem_of_mem_getLast? ha))
  space c hc hb := by
    rw [List.mem_append, List.mem_cons] at hc
    obtain hc | rfl | hc := hc
    · exact (visible hw).space c hc hb
    · rfl
    · exact hs.space c hc hb

/-- What is left of a tidy text after something that is taken off in front is tidy, unless it begins
with a blank. -/
theorem suffix (hs : Tidy s) (ht : t <:+ s) (hhead : ∀ c ∈ t.head?, isBlank c = false) :
    Tidy t where
  head := hhead
  last c hc := by
    obtain ⟨front, rfl⟩ := ht
    have hne : t ≠ [] := by
      rintro rfl
      cases hc
    refine hs.last c ?_
    rwa [List.getLast?_append_of_ne_nil _ hne]
  single := hs.single.suffix ht
  space c hc := hs.space c (ht.subset hc)

/-- Before and after the first blank of a tidy text there is something. -/
theorem parts (hs : Tidy (w ++ b :: t)) (hb : isBlank b = true) :
    w ≠ [] ∧ b = ' ' ∧ t ≠ [] ∧ Tidy t := by
  have hw : w ≠ [] := by
    rintro rfl
    have hhead := hs.head b rfl
    rw [hb] at hhead
    cases hhead
  have ht : t ≠ [] := by
    rintro rfl
    have hlast := hs.last b (by simp)
    rw [hb] at hlast
    cases hlast
  have hnext : ∀ c ∈ t.head?, isBlank c = false := by
    intro c hc
    obtain ⟨d, t, rfl⟩ := List.exists_cons_of_ne_nil ht
    cases hc
    have hpair := (List.isChain_append_cons_cons.mp hs.single).2.1
    rw [hb] at hpair
    exact hpair.resolve_left Bool.noConfusion
  have hsuffix : t <:+ w ++ b :: t := (List.suffix_cons b t).trans (List.suffix_append w (b :: t))
  exact ⟨hw, hs.space b (by simp) hb, ht, hs.suffix hsuffix hnext⟩

end Tidy

theorem joinWith_ne_nil {between : List Char} {ws : List (List Char)} (hws : ws ≠ [])
    (h : ∀ w ∈ ws, w ≠ []) : joinWith between ws ≠ [] := by
  obtain ⟨w, ws, rfl⟩ := List.exists_cons_of_ne_nil hws
  have hw := h w List.mem_cons_self
  cases ws with
  | nil => exact hw
  | cons v ws =>
    rw [joinWith_cons (List.cons_ne_nil v ws), List.append_assoc]
    exact List.append_ne_nil_of_left_ne_nil hw _

/-- Nothing is left of a text just where there are blanks only. -/
theorem collapse_eq_nil_iff : collapse s = [] ↔ allBlank s = true := by
  rw [← words_eq_nil_iff]
  constructor
  · intro hnil
    by_contra hws
    exact joinWith_ne_nil hws (fun w hw => (visible_of_mem_words hw).1) hnil
  · intro hws
    rw [collapse, hws]
    rfl

theorem tidy_joinWith {ws : List (List Char)} (h : ∀ w ∈ ws, w ≠ [] ∧ Visible w) :
    Tidy (joinWith [' '] ws) := by
  induction ws with
  | nil => exact .nil
  | cons w ws ih =>
    rw [List.forall_mem_cons] at h
    by_cases hws : ws = []
    · subst hws
      exact .visible h.1.2
    · rw [joinWith_cons hws, List.append_assoc, List.singleton_append]
      exact .append_space h.1.2 h.1.1 (ih h.2) (joinWith_ne_nil hws fun v hv => (h.2 v hv).1)

theorem tidy_collapse (s : List Char) : Tidy (collapse s) :=
  tidy_joinWith fun _ hw => visible_of_mem_words hw

/-- Tidy texts stay as they are when they are collapsed. -/
theorem Tidy.collapse_eq (hs : Tidy s) : collapse s = s := by
  unfold collapse
  induction s using words_induction with
  | visible w hw =>
    by_cases hne : w = []
    · subst hne
      rfl
    · rw [words_visible hw hne]
      rfl
  | blank w b t hw hb ih =>
    obtain ⟨hne, rfl, ht, htidy⟩ := hs.parts hb
    have hjoin : joinWith [' '] (words t) = t := ih htidy
    have hwords : words t ≠ [] := by
      intro hnil
      rw [hnil] at hjoin
      exact ht hjoin.symm
    rw [words_append_blank hb, words_visible hw hne, List.singleton_append, joinWith_cons hwords,
      hjoin, List.append_assoc]
    rfl

end RegistryDedup.Text
