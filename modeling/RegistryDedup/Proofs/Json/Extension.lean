import Mathlib.Data.List.TakeDrop
import Mathlib.Data.List.TakeWhile
import Mathlib.Data.Option.Basic
import RegistryDedup.Proofs.Json.Reading
import RegistryDedup.Proofs.Text.Blank

/-!
# Texts with more text behind them

What a reader takes from a text it also takes where more text follows, and the rest has that text at
its end. Only a number can go on in what follows, so for numbers something has to be left of the
text itself.

- `Tree.readString_append`, `Tree.readNumber_append`: strings and numbers.
- `Tree.read_append`: values, with any more fuel.
- `Tree.ofText?_append_eq_none`: an object or an array with something other than spaces behind it is
  no JSON text.
-/

namespace RegistryDedup

open Text

namespace Tree

variable {s rest : List Char}

theorem skipSpace_append (hs : skipSpace s ≠ []) (more : List Char) :
    skipSpace (s ++ more) = skipSpace s ++ more := by
  unfold skipSpace at hs ⊢
  rw [List.dropWhile_append, if_neg (by simpa using hs)]

theorem skipSpace_append_of_all (hs : ∀ c ∈ s, isSpace c = true) (more : List Char) :
    skipSpace (s ++ more) = skipSpace more := by
  unfold skipSpace
  exact List.dropWhile_append_of_pos hs

/-! ## Strings -/

theorem readString_append {raw : List Char} (h : readString s = some (raw, rest))
    (more : List Char) : readString (s ++ more) = some (raw, rest ++ more) := by
  fun_induction readString s generalizing raw with
  | case1 => cases h
  | case2 rest' =>
    cases h
    rfl
  | case3 a b c d s hhex ih =>
    obtain ⟨⟨raw', rest'⟩, hraw, heq⟩ := Option.map_eq_some_iff.mp h
    cases heq
    show (if isHexDigit a && isHexDigit b && isHexDigit c && isHexDigit d then
      (readString (s ++ more)).map _ else none) = _
    rw [if_pos hhex, ih hraw]
    rfl
  | case4 => cases h
  | case5 c s hnot hable ih =>
    obtain ⟨⟨raw', rest'⟩, hraw, heq⟩ := Option.map_eq_some_iff.mp h
    cases heq
    show readString (['\\', c] ++ (s ++ more)) = _
    rw [readString_escape (.short c hable rfl), ih hraw]
    rfl
  | case6 => cases h
  | case7 => cases h
  | case8 => cases h
  | case9 c s hquote hescape hnamed hlone hvisible ih =>
    obtain ⟨⟨raw', rest'⟩, hraw, heq⟩ := Option.map_eq_some_iff.mp h
    cases heq
    have hbackslash : c ≠ '\\' := by
      rintro rfl
      cases s with
      | nil => exact hlone rfl rfl
      | cons d s => exact hnamed d s rfl rfl
    show readString ([c] ++ (s ++ more)) = _
    rw [readString_escape (.plain hquote hbackslash (Nat.le_of_not_lt hvisible)), ih hraw]
    rfl

/-! ## Numbers -/

/-- Digits end where they end, unless the text ends with them. -/
theorem spanDigits_append {digits : List Char} (h : spanDigits s = (digits, rest))
    (hrest : rest ≠ []) (more : List Char) : spanDigits (s ++ more) = (digits, rest ++ more) := by
  unfold spanDigits at h ⊢
  rw [List.span_eq_takeWhile_dropWhile, Prod.mk.injEq] at h ⊢
  obtain ⟨rfl, rfl⟩ := h
  have hlength : (s.takeWhile isDigit).length ≠ s.length := by
    intro heq
    have hsum := congrArg List.length (List.takeWhile_append_dropWhile (p := isDigit) (l := s))
    rw [List.length_append, heq] at hsum
    exact hrest (List.eq_nil_of_length_eq_zero (by omega))
  rw [List.takeWhile_append, if_neg hlength, List.dropWhile_append, if_neg (by simpa using hrest)]
  exact ⟨rfl, rfl⟩

theorem readFraction_append {fraction : Option (List Char)}
    (h : readFraction s = some (fraction, rest)) (hrest : rest ≠ []) (more : List Char) :
    readFraction (s ++ more) = some (fraction, rest ++ more) := by
  rw [readFraction.eq_def] at h
  split at h
  · next s =>
    -- A fraction has a digit, so that the digits are not all of what is left.
    cases hspan : spanDigits s with
    | mk digits after =>
      rw [hspan] at h
      cases digits with
      | nil => cases h
      | cons d digits =>
        cases h
        show readFraction ('.' :: (s ++ more)) = _
        rw [readFraction, spanDigits_append hspan hrest]
  · next hpoint =>
    cases h
    obtain ⟨c, s, rfl⟩ := List.exists_cons_of_ne_nil hrest
    rw [List.cons_append, readFraction]
    intro s' heq
    exact hpoint s (by rw [(List.cons.inj heq).1])

theorem readExponentDigits_append {negative : Bool} {exponent : Option (Bool × List Char)}
    (h : readExponentDigits negative s = some (exponent, rest)) (hrest : rest ≠ [])
    (more : List Char) :
    readExponentDigits negative (s ++ more) = some (exponent, rest ++ more) := by
  unfold readExponentDigits at h ⊢
  cases hspan : spanDigits s with
  | mk digits after =>
    rw [hspan] at h
    cases digits with
    | nil => cases h
    | cons d digits =>
      cases h
      rw [spanDigits_append hspan hrest]

theorem readExponent_append {exponent : Option (Bool × List Char)}
    (h : readExponent s = some (exponent, rest)) (hrest : rest ≠ []) (more : List Char) :
    readExponent (s ++ more) = some (exponent, rest ++ more) := by
  cases s with
  | nil =>
    cases h
    exact absurd rfl hrest
  | cons c s =>
    rw [List.cons_append]
    rw [readExponent.eq_def] at h ⊢
    dsimp only at h ⊢
    by_cases he : c = 'e' ∨ c = 'E'
    · rw [if_pos he] at h ⊢
      split at h
      · exact readExponentDigits_append h hrest more
      · exact readExponentDigits_append h hrest more
      · next hminus hplus =>
        cases s with
        | nil => cases h
        | cons d s =>
          rw [List.cons_append]
          split
          · next heq => exact (hminus s (by rw [(List.cons.inj heq).1])).elim
          · next heq => exact (hplus s (by rw [(List.cons.inj heq).1])).elim
          · exact readExponentDigits_append h hrest more
    · rw [if_neg he] at h ⊢
      cases h
      rfl

/-- A number has a whole part, then perhaps a fraction, then perhaps an exponent. -/
theorem readUnsigned_eq_some {negative : Bool} {n : NumberText} :
    readUnsigned negative s = some (n, rest) ↔ ∃ whole s₁ fraction s₂ exponent,
      spanDigits s = (whole, s₁) ∧
      (!whole.isEmpty && (whole == ['0'] || whole.head? != some '0')) = true ∧
      readFraction s₁ = some (fraction, s₂) ∧ readExponent s₂ = some (exponent, rest) ∧
      n = ⟨negative, whole, fraction, exponent⟩ := by
  unfold readUnsigned
  cases hspan : spanDigits s with
  | mk whole s₁ =>
    simp only [Option.bind_eq_bind, Option.bind_eq_some_iff, Option.guard_eq_some', Option.pure_def,
      Option.some.injEq, Prod.mk.injEq, Prod.exists]
    constructor
    · rintro ⟨_, hwhole, fraction, s₂, hfraction, exponent, s₃, hexponent, rfl, rfl⟩
      exact ⟨whole, s₁, fraction, s₂, exponent, ⟨rfl, rfl⟩, hwhole, hfraction, hexponent, rfl⟩
    · rintro ⟨_, _, fraction, s₂, exponent, ⟨rfl, rfl⟩, hwhole, hfraction, hexponent, rfl⟩
      exact ⟨(), hwhole, fraction, s₂, hfraction, exponent, rest, hexponent, rfl, rfl⟩

theorem readUnsigned_append {negative : Bool} {n : NumberText}
    (h : readUnsigned negative s = some (n, rest)) (hrest : rest ≠ []) (more : List Char) :
    readUnsigned negative (s ++ more) = some (n, rest ++ more) := by
  obtain ⟨whole, s₁, fraction, s₂, exponent, hspan, hwhole, hfraction, hexponent, rfl⟩ :=
    readUnsigned_eq_some.mp h
  have hs₂ : s₂ ≠ [] := by
    rintro rfl
    cases hexponent
    exact hrest rfl
  have hs₁ : s₁ ≠ [] := by
    rintro rfl
    cases hfraction
    exact hs₂ rfl
  exact readUnsigned_eq_some.mpr ⟨whole, s₁ ++ more, fraction, s₂ ++ more, exponent,
    spanDigits_append hspan hs₁ more, hwhole, readFraction_append hfraction hs₂ more,
    readExponent_append hexponent hrest more, rfl⟩

theorem readNumber_append {n : NumberText} (h : readNumber s = some (n, rest)) (hrest : rest ≠ [])
    (more : List Char) : readNumber (s ++ more) = some (n, rest ++ more) := by
  cases s with
  | nil => cases h
  | cons c s =>
    rw [List.cons_append]
    rw [readNumber.eq_def] at h ⊢
    split at h
    · next heq =>
      cases heq
      exact readUnsigned_append h hrest more
    · next hminus =>
      split
      · next heq =>
        exact (hminus s (by rw [(List.cons.inj heq).1])).elim
      · exact readUnsigned_append h hrest more

/-- A number begins with a minus sign or a digit. -/
theorem starts_of_readNumber {c : Char} {n : NumberText}
    (h : readNumber (c :: s) = some (n, rest)) : c = '-' ∨ isDigit c = true := by
  by_cases hc : c = '-'
  · exact .inl hc
  · have hunsigned : readUnsigned false (c :: s) = some (n, rest) := by
      rw [readNumber] at h
      · exact h
      · intro s' heq
        exact hc (List.cons.inj heq).1
    obtain ⟨whole, s₁, fraction, s₂, exponent, hspan, hwhole, -⟩ :=
      readUnsigned_eq_some.mp hunsigned
    right
    by_contra hdigit
    unfold spanDigits at hspan
    rw [List.span_eq_takeWhile_dropWhile, List.takeWhile_cons, if_neg hdigit,
      Prod.mk.injEq] at hspan
    rw [← hspan.1] at hwhole
    cases hwhole

/-! ## Values -/

/-- Whether a value is a number. -/
def isNumber : Tree → Bool
  | .number _ => true
  | _ => false

/-- What a reader with some fuel takes from a text, it takes with any more fuel and with any text
behind it. Numbers are taken so if something is left of the text. -/
structure Extends (fuel : Nat) : Prop where
  value : ∀ {s rest : List Char} {t : Tree}, read fuel s = some (t, rest) →
    (t.isNumber = true → rest ≠ []) → ∀ fuel', fuel ≤ fuel' → ∀ more,
      read fuel' (s ++ more) = some (t, rest ++ more)
  items : ∀ {s rest : List Char} {items : List Tree}, readItems fuel s = some (items, rest) →
    ∀ fuel', fuel ≤ fuel' → ∀ more, readItems fuel' (s ++ more) = some (items, rest ++ more)
  fields : ∀ {s rest : List Char} {fields : List (List Char × Tree)},
    readFields fuel s = some (fields, rest) →
    ∀ fuel', fuel ≤ fuel' → ∀ more, readFields fuel' (s ++ more) = some (fields, rest ++ more)

theorem read_nil (fuel : Nat) : read fuel [] = none := by
  cases fuel with
  | zero => rfl
  | succ fuel => rfl

theorem readItems_nil (fuel : Nat) : readItems fuel [] = none := by
  cases fuel with
  | zero => rfl
  | succ fuel => rw [readItems, read_nil]

theorem readFields_nil (fuel : Nat) : readFields fuel [] = none := by
  cases fuel with
  | zero => rfl
  | succ fuel => rfl

theorem skipSpace_append_cons {c : Char} {after : List Char} (h : skipSpace s = c :: after)
    (more : List Char) : skipSpace (s ++ more) = c :: (after ++ more) := by
  rw [skipSpace_append (by simp [h]), h, List.cons_append]

theorem ne_nil_of_skipSpace_cons {c : Char} {after : List Char} (h : skipSpace s = c :: after) :
    s ≠ [] := by
  rintro rfl
  cases h

/-- What is read after some space begins with a character, unless it may be nothing. -/
theorem exists_skipSpace_cons {α : Type} {f : List Char → Option α} {a : α} (hnil : f [] = none)
    (h : f (skipSpace s) = some a) : ∃ c after, skipSpace s = c :: after := by
  refine List.exists_cons_of_ne_nil fun hskip => ?_
  rw [hskip, hnil] at h
  cases h

/-- What begins like a number is read as one. -/
theorem read_number {c : Char} {s' : List Char} (hc : c = '-' ∨ isDigit c = true)
    (hs : skipSpace s = c :: s') (fuel : Nat) :
    read (fuel + 1) s = (readNumber (c :: s')).map fun (n, after) => (.number n, after) := by
  rw [read, hs]
  split
  · next heq =>
    cases heq
    exact absurd hc (by decide)
  · next heq =>
    cases heq
    exact absurd hc (by decide)
  · next heq =>
    cases heq
    exact absurd hc (by decide)
  · next heq =>
    cases heq
    exact absurd hc (by decide)
  · next heq =>
    cases heq
    exact absurd hc (by decide)
  · next heq =>
    cases heq
    exact absurd hc (by decide)
  · rfl

namespace Extends

variable {fuel fuel' : Nat}

theorem readItems_succ (ih : Extends fuel) {items : List Tree}
    (h : readItems (fuel + 1) s = some (items, rest)) (hfuel : fuel ≤ fuel') (more : List Char) :
    readItems (fuel' + 1) (s ++ more) = some (items, rest ++ more) := by
  rw [readItems] at h ⊢
  cases hitem : read fuel s with
  | none =>
    rw [hitem] at h
    cases h
  | some pair =>
    obtain ⟨item, after⟩ := pair
    rw [hitem] at h
    dsimp only at h
    split at h
    · next hskip =>
      cases h
      rw [ih.value hitem (fun _ => ne_nil_of_skipSpace_cons hskip) fuel' hfuel more]
      simp only [skipSpace_append_cons hskip]
    · next hskip =>
      obtain ⟨⟨items', rest'⟩, hitems, heq⟩ := Option.map_eq_some_iff.mp h
      cases heq
      rw [ih.value hitem (fun _ => ne_nil_of_skipSpace_cons hskip) fuel' hfuel more]
      simp only [skipSpace_append_cons hskip, ih.items hitems fuel' hfuel more, Option.map_some]
    · cases h

theorem readFields_succ (ih : Extends fuel) {fields : List (List Char × Tree)}
    (h : readFields (fuel + 1) s = some (fields, rest)) (hfuel : fuel ≤ fuel') (more : List Char) :
    readFields (fuel' + 1) (s ++ more) = some (fields, rest ++ more) := by
  rw [readFields] at h ⊢
  split at h
  · next hquote =>
    simp only [skipSpace_append_cons hquote]
    split at h
    · cases h
    · next hname =>
      simp only [readString_append hname]
      split at h
      · next hcolon =>
        simp only [skipSpace_append_cons hcolon]
        split at h
        · cases h
        · next hvalue =>
          split at h
          · next hskip =>
            cases h
            rw [ih.value hvalue (fun _ => ne_nil_of_skipSpace_cons hskip) fuel' hfuel more]
            simp only [skipSpace_append_cons hskip]
          · next hskip =>
            obtain ⟨⟨fields', rest'⟩, hfields, heq⟩ := Option.map_eq_some_iff.mp h
            cases heq
            rw [ih.value hvalue (fun _ => ne_nil_of_skipSpace_cons hskip) fuel' hfuel more]
            simp only [skipSpace_append_cons hskip, ih.fields hfields fuel' hfuel more,
              Option.map_some]
          · cases h
      · cases h
  · cases h

theorem read_succ (ih : Extends fuel) {t : Tree} (h : read (fuel + 1) s = some (t, rest))
    (hrest : t.isNumber = true → rest ≠ []) (hfuel : fuel ≤ fuel') (more : List Char) :
    read (fuel' + 1) (s ++ more) = some (t, rest ++ more) := by
  rw [read] at h ⊢
  split at h
  · next hskip =>
    cases h
    simp only [skipSpace_append_cons hskip, List.cons_append]
  · next hskip =>
    cases h
    simp only [skipSpace_append_cons hskip, List.cons_append]
  · next hskip =>
    cases h
    simp only [skipSpace_append_cons hskip, List.cons_append]
  · next hskip =>
    obtain ⟨⟨raw, after⟩, hraw, heq⟩ := Option.map_eq_some_iff.mp h
    cases heq
    simp only [skipSpace_append_cons hskip, readString_append hraw, Option.map_some]
  · next hskip =>
    simp only [skipSpace_append_cons hskip]
    split at h
    · next hclose =>
      cases h
      simp only [skipSpace_append_cons hclose]
    · next hopen =>
      obtain ⟨⟨items, after⟩, hitems, heq⟩ := Option.map_eq_some_iff.mp h
      cases heq
      obtain ⟨c, s', hc⟩ := exists_skipSpace_cons (readItems_nil fuel) hitems
      rw [hc] at hitems hopen
      rw [skipSpace_append_cons hc]
      split
      · next hclose => exact (hopen s' (by rw [(List.cons.inj hclose).1])).elim
      · rw [← List.cons_append, ih.items hitems fuel' hfuel more]
        rfl
  · next hskip =>
    simp only [skipSpace_append_cons hskip]
    split at h
    · next hclose =>
      cases h
      simp only [skipSpace_append_cons hclose]
    · next hopen =>
      obtain ⟨⟨fields, after⟩, hfields, heq⟩ := Option.map_eq_some_iff.mp h
      cases heq
      obtain ⟨c, s', hc⟩ := exists_skipSpace_cons (readFields_nil fuel) hfields
      rw [hc] at hfields hopen
      rw [skipSpace_append_cons hc]
      split
      · next hclose => exact (hopen s' (by rw [(List.cons.inj hclose).1])).elim
      · rw [← List.cons_append, ih.fields hfields fuel' hfuel more]
        rfl
  · next hn ht hf hs ha ho =>
    obtain ⟨⟨n, after⟩, hnumber, heq⟩ := Option.map_eq_some_iff.mp h
    cases heq
    obtain ⟨c, s', hc⟩ := exists_skipSpace_cons rfl hnumber
    rw [hc] at hnumber
    rw [← read, read_number (starts_of_readNumber hnumber) (skipSpace_append_cons hc more),
      ← List.cons_append, readNumber_append hnumber (hrest rfl)]
    rfl

end Extends

theorem extends_read (fuel : Nat) : Extends fuel := by
  induction fuel with
  | zero =>
    constructor
    · intro s rest t h
      cases h
    · intro s rest items h
      cases h
    · intro s rest fields h
      cases h
  | succ fuel ih =>
    constructor
    · rintro s rest t h hrest (_ | fuel') hfuel more
      · exact absurd hfuel (Nat.not_succ_le_zero fuel)
      · exact ih.read_succ h hrest (Nat.le_of_succ_le_succ hfuel) more
    · rintro s rest items h (_ | fuel') hfuel more
      · exact absurd hfuel (Nat.not_succ_le_zero fuel)
      · exact ih.readItems_succ h (Nat.le_of_succ_le_succ hfuel) more
    · rintro s rest fields h (_ | fuel') hfuel more
      · exact absurd hfuel (Nat.not_succ_le_zero fuel)
      · exact ih.readFields_succ h (Nat.le_of_succ_le_succ hfuel) more

/-! ## Texts -/

theorem isEmpty_skipSpace (s : List Char) : (skipSpace s).isEmpty = s.all isSpace := by
  rw [Bool.eq_iff_iff, List.isEmpty_iff, List.all_eq_true]
  exact List.dropWhile_eq_nil_iff

theorem ofText?_eq_some {t : Tree} : ofText? s = some t ↔
    ∃ rest, read (2 * s.length + 2) s = some (t, rest) ∧ rest.all isSpace = true := by
  unfold ofText?
  cases hread : read (2 * s.length + 2) s with
  | none => simp
  | some pair =>
    obtain ⟨t', rest⟩ := pair
    dsimp only
    rw [isEmpty_skipSpace]
    constructor
    · intro h
      split at h
      · next hall =>
        cases h
        exact ⟨rest, rfl, hall⟩
      · cases h
    · rintro ⟨rest', heq, hall⟩
      cases heq
      rw [if_pos hall]

/-- A value other than a number with something other than spaces behind it is no JSON text. -/
theorem ofText?_append_eq_none {t : Tree} (h : ofText? s = some t) (ht : t.isNumber = false)
    {more : List Char} (hmore : more.all isSpace = false) : ofText? (s ++ more) = none := by
  obtain ⟨rest, hread, -⟩ := ofText?_eq_some.mp h
  have hfuel : 2 * s.length + 2 ≤ 2 * (s ++ more).length + 2 := by
    rw [List.length_append]
    omega
  have hlonger := (extends_read _).value hread (fun hn => by simp [ht] at hn) _ hfuel more
  rw [Option.eq_none_iff_forall_ne_some]
  intro t' ht'
  obtain ⟨rest', hread', hall⟩ := ofText?_eq_some.mp ht'
  rw [hlonger] at hread'
  cases hread'
  rw [List.all_append, hmore, Bool.and_false] at hall
  cases hall

/-- Spaces in front of a text make no difference. -/
theorem ofText?_append_of_all (hs : s.all isSpace = true) {text : List Char} {t : Tree}
    (h : ofText? text = some t) (ht : t.isNumber = false) : ofText? (s ++ text) = some t := by
  obtain ⟨rest, hread, hall⟩ := ofText?_eq_some.mp h
  refine ofText?_eq_some.mpr ⟨rest, ?_, hall⟩
  have hfuel : 2 * text.length + 2 ≤ 2 * (s ++ text).length + 2 := by
    rw [List.length_append]
    omega
  have hlonger := (extends_read _).value hread (fun hn => by simp [ht] at hn) _ hfuel []
  rw [List.append_nil, List.append_nil] at hlonger
  rw [read, skipSpace_append_of_all (List.all_eq_true.mp hs), ← read]
  exact hlonger

/-- A text begins with a character that is not blank, apart from spaces. -/
theorem head_of_read {fuel : Nat} {t : Tree} (h : read fuel s = some (t, rest)) :
    ∃ c after, skipSpace s = c :: after ∧ isBlank c = false := by
  cases fuel with
  | zero => cases h
  | succ fuel =>
    rw [read] at h
    split at h
    · next hskip => exact ⟨_, _, hskip, rfl⟩
    · next hskip => exact ⟨_, _, hskip, rfl⟩
    · next hskip => exact ⟨_, _, hskip, rfl⟩
    · next hskip => exact ⟨_, _, hskip, rfl⟩
    · next hskip => exact ⟨_, _, hskip, rfl⟩
    · next hskip => exact ⟨_, _, hskip, rfl⟩
    · obtain ⟨⟨n, after⟩, hnumber, -⟩ := Option.map_eq_some_iff.mp h
      cases hskip : skipSpace s with
      | nil =>
        rw [hskip] at hnumber
        cases hnumber
      | cons c s' =>
        rw [hskip] at hnumber
        refine ⟨c, s', rfl, ?_⟩
        obtain rfl | hdigit := starts_of_readNumber hnumber
        · rfl
        · exact isBlank_of_isDigit hdigit

/-- A text that begins with a blank character other than a space holds no value. -/
theorem ofText?_eq_none_of_blank {c : Char} {more : List Char} (hs : skipSpace s = c :: more)
    (hblank : isBlank c = true) : ofText? s = none := by
  rw [Option.eq_none_iff_forall_ne_some]
  intro t ht
  obtain ⟨rest, hread, -⟩ := ofText?_eq_some.mp ht
  obtain ⟨d, after, hskip, hvisible⟩ := head_of_read hread
  rw [hs] at hskip
  cases hskip
  rw [hblank] at hvisible
  cases hvisible

end Tree

end RegistryDedup
