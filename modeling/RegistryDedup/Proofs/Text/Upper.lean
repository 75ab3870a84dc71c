import RegistryDedup.Proofs.Text.Blank
import RegistryDedup.Text.Upper

/-!
# Upper case twice

What has been put into upper case stays as it is, and blanks are neither made nor lost. All of this
is read off the tables of the mapping: no upper-case form lies in a run of characters that have an
upper-case form of their own, or in a run of blanks.

- `upperRuns_clear`, `upperExpansions_clear`: the tables.
- `upperChar_cases`: a character stays as it is, or it is visible and becomes visible characters
  that stay as they are.
- `upper_upper`, `words_upper`: the same for texts.
-/

namespace RegistryDedup.Text

variable {c : Char} {r s : UpperRun} {n : Nat}

/-! ## Runs without a common character -/

namespace UpperRun

/-- A run of one character. -/
def single (n : Nat) : UpperRun :=
  ⟨n, n, 1, 0⟩

/-- The upper-case forms of a run, which are a run too. -/
def images (r : UpperRun) : UpperRun :=
  ⟨r.image r.first, r.image r.last, r.step, 0⟩

/-- Whether two runs are one after the other, or in steps of two that do not meet. -/
def disjoint (r s : UpperRun) : Bool :=
  Nat.blt r.last s.first || (Nat.blt s.last r.first ||
    ((Nat.beq r.step 2 || Nat.beq r.first r.last) && Nat.beq s.step 2 &&
      Nat.beq ((r.first + s.first) % 2) 1))

theorem covers_iff : r.covers n = true ↔
    r.first ≤ n ∧ n ≤ r.last ∧ (n - r.first) % r.step = 0 := by
  simp [covers, and_assoc]

theorem covers_single (n : Nat) : (single n).covers n = true := by
  simp [covers_iff, single]

theorem covers_images (h : r.covers n = true) (hlow : 0 ≤ r.first + r.shift) :
    r.images.covers (r.image n) = true := by
  obtain ⟨hfirst, hlast, hstep⟩ := covers_iff.mp h
  have hsame : r.image n - r.image r.first = n - r.first := by
    unfold image
    omega
  refine covers_iff.mpr ⟨?_, ?_, ?_⟩
  · show r.image r.first ≤ r.image n
    unfold image
    omega
  · show r.image n ≤ r.image r.last
    unfold image
    omega
  · show (r.image n - r.image r.first) % r.step = 0
    rw [hsame, hstep]

theorem not_covers_of_disjoint (h : disjoint r s = true) (hr : r.covers n = true) :
    s.covers n = false := by
  rw [Bool.eq_false_iff]
  intro hs
  obtain ⟨hfirst, hlast, hstep⟩ := covers_iff.mp hr
  obtain ⟨hfirst', hlast', hstep'⟩ := covers_iff.mp hs
  simp only [disjoint, Bool.or_eq_true, Bool.and_eq_true, Nat.blt_eq, Nat.beq_eq] at h
  obtain h | h | ⟨⟨hone | hone, htwo⟩, hodd⟩ := h
  · omega
  · omega
  · rw [hone] at hstep
    rw [htwo] at hstep'
    omega
  · rw [htwo] at hstep'
    omega

end UpperRun

open UpperRun

/-! ## The tables -/

/-- The blanks. -/
def blankRuns : List UpperRun :=
  [⟨0x9, 0xD, 1, 0⟩, single 0x20, single 0x85, single 0xA0, single 0x1680, ⟨0x2000, 0x200A, 1, 0⟩,
    ⟨0x2028, 0x2029, 1, 0⟩, single 0x202F, single 0x205F, single 0x3000]

/-- The characters with an upper-case form of one character. -/
def shiftedRuns : List UpperRun :=
  ⟨0x61, 0x7A, 1, -0x20⟩ :: upperRuns

/-- The characters with an upper-case form of their own. -/
def lowerRuns : List UpperRun :=
  shiftedRuns ++ upperExpansions.map fun entry => single entry.1

/-- Whether a run has no blanks and no characters with an upper-case form of their own. -/
def clear (r : UpperRun) : Bool :=
  (blankRuns ++ lowerRuns).all (disjoint r)

/-- The bounds of code points are met by both ends of a run. -/
def sound (r : UpperRun) : Bool :=
  0 ≤ r.first + r.shift && (r.image r.last < 0xD800 || 0xDFFF < r.image r.first) &&
    r.image r.last < 0x110000

theorem lowerRuns_visible : lowerRuns.all (fun r => blankRuns.all (disjoint r)) = true := by
  decide +kernel

/-- Upper-case forms of one character. -/
theorem shiftedRuns_clear : shiftedRuns.all (fun r => sound r && clear r.images) = true := by
  decide +kernel

/-- Upper-case forms of several characters. -/
theorem upperExpansions_clear : upperExpansions.all (fun entry =>
    !entry.2.isEmpty && entry.2.all fun n => sound (single n) && clear (single n)) = true := by
  decide +kernel

theorem isBlank_eq (c : Char) : isBlank c = blankRuns.any (·.covers c.toNat) := by
  rw [Bool.eq_iff_iff]
  simp only [isBlank, blankRuns, single, List.any_cons, List.any_nil, Bool.or_eq_true,
    Bool.and_eq_true, decide_eq_true_eq, beq_iff_eq, covers_iff, Nat.mod_one, and_true,
    Bool.false_eq_true, or_false]
  omega

/-- A character in none of the runs stays as it is. -/
theorem upperChar_eq_self (h : ∀ r ∈ lowerRuns, r.covers c.toNat = false) : upperChar c = [c] := by
  have hascii : ¬(0x61 ≤ c.toNat ∧ c.toNat ≤ 0x7A) := by
    have hrun := h _ List.mem_cons_self
    simpa [covers, Nat.mod_one] using hrun
  have hruns : upperRuns.find? (·.covers c.toNat) = none := by
    rw [List.find?_eq_none]
    intro r hr
    simp [h r (List.mem_append_left _ (List.mem_cons_of_mem _ hr))]
  have hexpansions : upperExpansions.lookup c.toNat = none := by
    rw [List.lookup_eq_none_iff]
    intro entry hentry
    have hrun := h _ (List.mem_append_right _ (List.mem_map_of_mem hentry))
    rw [bne_iff_ne]
    intro heq
    rw [heq, covers_single] at hrun
    cases hrun
  simp [upperChar, hascii, hruns, hexpansions]

/-! ## Characters -/

/-- A visible character that is its own upper-case form. -/
def Settled (c : Char) : Prop :=
  isBlank c = false ∧ upperChar c = [c]

theorem isBlank_of_covers (hr : r ∈ lowerRuns) (hc : r.covers c.toNat = true) :
    isBlank c = false := by
  rw [isBlank_eq, List.any_eq_false]
  intro s hs
  have hapart := List.all_eq_true.mp (List.all_eq_true.mp lowerRuns_visible r hr) s hs
  rw [not_covers_of_disjoint hapart hc]
  exact Bool.false_ne_true

theorem settled_of_clear (h : clear r = true) (hn : r.covers n = true) (hvalid : n.isValidChar) :
    Settled (Char.ofNat n) := by
  have hcode : (Char.ofNat n).toNat = n := by
    rw [Char.ofNat, dif_pos hvalid]
    rfl
  have hall : ∀ s ∈ blankRuns ++ lowerRuns, s.covers (Char.ofNat n).toNat = false := by
    intro s hs
    rw [hcode]
    exact not_covers_of_disjoint (List.all_eq_true.mp h s hs) hn
  refine ⟨?_, upperChar_eq_self fun s hs => hall s (List.mem_append_right _ hs)⟩
  rw [isBlank_eq, List.any_eq_false]
  intro s hs
  rw [hall s (List.mem_append_left _ hs)]
  exact Bool.false_ne_true

/-- The upper-case form of a character of a run. -/
theorem settled_image (hr : r ∈ shiftedRuns) (hn : r.covers n = true) :
    Settled (Char.ofNat (r.image n)) := by
  have hrun := List.all_eq_true.mp shiftedRuns_clear r hr
  rw [Bool.and_eq_true] at hrun
  have hsound := hrun.1
  simp only [sound, Bool.and_eq_true, Bool.or_eq_true, decide_eq_true_eq] at hsound
  have himage := covers_images hn hsound.1.1
  refine settled_of_clear hrun.2 himage ?_
  obtain ⟨hfirst, hlast, -⟩ := covers_iff.mp himage
  simp only [images] at hfirst hlast
  show r.image n < 0xD800 ∨ 0xDFFF < r.image n ∧ r.image n < 0x110000
  omega

/-- The upper-case form of a character of its own that becomes several. -/
theorem settled_expansion {codes : List Nat} (h : (n, codes) ∈ upperExpansions) :
    codes ≠ [] ∧ ∀ m ∈ codes, Settled (Char.ofNat m) := by
  have hentry := List.all_eq_true.mp upperExpansions_clear _ h
  simp only [Bool.and_eq_true, Bool.not_eq_true', List.isEmpty_eq_false_iff, List.all_eq_true]
    at hentry
  refine ⟨hentry.1, fun m hm => ?_⟩
  obtain ⟨hsound, hclear⟩ := hentry.2 m hm
  refine settled_of_clear hclear (covers_single m) ?_
  simp [sound, single, image] at hsound
  show m < 0xD800 ∨ 0xDFFF < m ∧ m < 0x110000
  omega

/-- A character stays as it is, or it is visible and becomes visible characters that stay as they
are. -/
theorem upperChar_cases (c : Char) :
    upperChar c = [c] ∨
      isBlank c = false ∧ upperChar c ≠ [] ∧ ∀ d ∈ upperChar c, Settled d := by
  have hshifted : ∀ r ∈ shiftedRuns, r.covers c.toNat = true →
      isBlank c = false ∧ Settled (Char.ofNat (r.image c.toNat)) := by
    intro r hr hc
    exact ⟨isBlank_of_covers (List.mem_append_left _ hr) hc, settled_image hr hc⟩
  unfold upperChar
  dsimp only
  split
  · split
    · next hletter =>
      have hc : UpperRun.covers ⟨0x61, 0x7A, 1, -0x20⟩ c.toNat = true := by
        simp [covers, Nat.mod_one, hletter]
      obtain ⟨hblank, hsettled⟩ := hshifted _ List.mem_cons_self hc
      have himage : UpperRun.image ⟨0x61, 0x7A, 1, -0x20⟩ c.toNat = c.toNat - 0x20 := by
        unfold image
        dsimp only
        omega
      rw [himage] at hsettled
      exact .inr ⟨hblank, List.cons_ne_nil _ _, by simpa using hsettled⟩
    · exact .inl rfl
  · split
    · next codes hlookup =>
      have hentry : (c.toNat, codes) ∈ upperExpansions := by
        obtain ⟨front, rest, hsplit, -⟩ := List.lookup_eq_some_iff.mp hlookup
        rw [hsplit]
        exact List.mem_append_right _ List.mem_cons_self
      obtain ⟨hne, hsettled⟩ := settled_expansion hentry
      have hrun : single c.toNat ∈ lowerRuns :=
        List.mem_append_right _ (List.mem_map.mpr ⟨_, hentry, rfl⟩)
      refine .inr ⟨isBlank_of_covers hrun (covers_single _), by simpa using hne, ?_⟩
      simpa using hsettled
    · split
      · next run hfind =>
        have hc : run.covers c.toNat = true := by simpa using List.find?_some hfind
        obtain ⟨hblank, hsettled⟩ :=
          hshifted run (List.mem_cons_of_mem _ (List.mem_of_find?_eq_some hfind)) hc
        exact .inr ⟨hblank, List.cons_ne_nil _ _, by simpa using hsettled⟩
      · exact .inl rfl

theorem upperChar_blank (hc : isBlank c = true) : upperChar c = [c] := by
  obtain hsame | ⟨hvisible, -⟩ := upperChar_cases c
  · exact hsame
  · rw [hc] at hvisible
    cases hvisible

theorem upperChar_ne_nil (c : Char) : upperChar c ≠ [] := by
  obtain hsame | ⟨-, hne, -⟩ := upperChar_cases c
  · rw [hsame]
    exact List.cons_ne_nil c []
  · exact hne

/-- No blank is in the upper-case form of a visible character. -/
theorem visible_upperChar (hc : isBlank c = false) : Visible (upperChar c) := by
  intro d hd
  obtain hsame | ⟨-, -, hsettled⟩ := upperChar_cases c
  · rw [hsame, List.mem_singleton] at hd
    rwa [hd]
  · exact (hsettled d hd).1

/-! ## Texts -/

variable {t w : List Char}

theorem upper_cons (c : Char) (t : List Char) : upper (c :: t) = upperChar c ++ upper t :=
  rfl

theorem upper_append (t u : List Char) : upper (t ++ u) = upper t ++ upper u :=
  List.flatMap_append

theorem upper_eq_self (h : ∀ c ∈ t, upperChar c = [c]) : upper t = t := by
  calc upper t
    _ = t.flatMap fun c => [c] := List.flatMap_congr h
    _ = t := List.flatMap_singleton' t

/-- Upper-case forms are made of characters that stay as they are. -/
theorem upperChar_of_mem_upper (hc : c ∈ upper t) : upperChar c = [c] := by
  obtain ⟨d, -, hd⟩ := List.mem_flatMap.mp hc
  obtain hsame | ⟨-, -, hsettled⟩ := upperChar_cases d
  · rw [hsame, List.mem_singleton] at hd
    rwa [hd]
  · exact (hsettled c hd).2

/-- What has been put into upper case stays as it is. -/
theorem upper_upper (t : List Char) : upper (upper t) = upper t :=
  upper_eq_self fun _ hc => upperChar_of_mem_upper hc

theorem upper_eq_nil_iff : upper t = [] ↔ t = [] := by
  cases t with
  | nil => exact iff_of_true rfl rfl
  | cons c t =>
    rw [upper_cons]
    exact iff_of_false (List.append_ne_nil_of_left_ne_nil (upperChar_ne_nil c) _)
      (List.cons_ne_nil c t)

theorem Visible.upper (hw : Visible w) : Visible (upper w) := by
  intro d hd
  obtain ⟨c, hc, hd⟩ := List.mem_flatMap.mp hd
  exact visible_upperChar (hw c hc) d hd

/-- The words of a text in upper case are its words in upper case. -/
theorem words_upper (t : List Char) : words (upper t) = (words t).map upper := by
  induction t using text_induction with
  | empty => rfl
  | word w hw hne =>
    have hne' : upper w ≠ [] := mt upper_eq_nil_iff.mp hne
    rw [words_visible hw hne, words_visible hw.upper hne', List.map_singleton]
  | blank s b t hb ih ih' =>
    rw [upper_append, upper_cons, upperChar_blank hb, List.singleton_append,
      words_append_blank hb, words_append_blank hb, ih, ih', List.map_append]

end RegistryDedup.Text
