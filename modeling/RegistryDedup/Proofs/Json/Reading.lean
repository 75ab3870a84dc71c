import Mathlib.Data.List.Forall2
import RegistryDedup.Json.Printer
import RegistryDedup.Json.Record

/-!
# Reading what was written

A JSON text without spaces is taken apart into what it was written from. `Json.ReadsAs` says so for
one value: whatever follows its text, a reader with enough fuel takes just the text and gives the
tree. It is built up as values are: arrays and objects are read as trees if their parts are. Numbers
are left out: how far a number goes depends on what follows.

- `Escape`, `escape_escapedChar`: all that a character in a string can be written as.
- `Tree.readString_written`, `unescape?_escapedText`: a string up to its closing quote, and its
  characters.
- `Json.ReadsAs`: a value that is read as a tree.
- `Tree.members?_written`: the members of a record.
-/

namespace RegistryDedup

open Text

/-! ## Strings -/

/-- How a character may be written in a string so that it is read back. -/
inductive Escape (c : Char) : List Char → Prop
  /-- An escape of two characters. -/
  | short (e : Char) (escapable : Tree.isEscapable e = true) (stands : escaped e = c) :
      Escape c ['\\', e]
  /-- A control character by its number. -/
  | numbered (x y : Char) (high : Tree.isHexDigit x = true) (low : Tree.isHexDigit y = true)
      (control : c.toNat < 0x20) (number : hexWord '0' '0' x y = c.toNat) :
      Escape c ['\\', 'u', '0', '0', x, y]
  /-- The character itself. -/
  | plain (quote : c ≠ '"') (backslash : c ≠ '\\') (visible : 0x20 ≤ c.toNat) : Escape c [c]

theorem isHexDigit_hexDigit {n : Nat} (h : n < 16) : Tree.isHexDigit (hexDigit n) = true := by
  revert n
  decide

theorem hexValue_hexDigit {n : Nat} (h : n < 16) : hexValue (hexDigit n) = n := by
  revert n
  decide

theorem escape_escapedChar (c : Char) : Escape c (escapedChar c) := by
  have hnamed : ∀ {e : Char} {n : Nat}, c.toNat = n → Tree.isEscapable e = true →
      escaped e = Char.ofNat n → Escape c ['\\', e] := fun {e n} hn hable hstands =>
    .short e hable (by rw [hstands, ← hn, Char.ofNat_toNat])
  unfold escapedChar
  by_cases hquote : c = '"'
  · rw [if_pos hquote]
    exact .short '"' rfl hquote.symm
  by_cases hbackslash : c = '\\'
  · rw [if_neg hquote, if_pos hbackslash]
    exact .short '\\' rfl hbackslash.symm
  rw [if_neg hquote, if_neg hbackslash]
  -- Five control characters have a letter of their own, the others are written by number.
  split
  · next heq => exact .short 'n' rfl heq.symm
  split
  · next heq => exact .short 'r' rfl heq.symm
  split
  · next heq => exact .short 't' rfl heq.symm
  split
  · next hback => exact hnamed hback rfl rfl
  split
  · next hfeed => exact hnamed hfeed rfl rfl
  split
  · next hcontrol =>
    have hhigh : c.toNat / 16 < 16 := by omega
    have hlow : c.toNat % 16 < 16 := by omega
    have hzero : hexValue '0' = 0 := rfl
    refine .numbered _ _ (isHexDigit_hexDigit hhigh) (isHexDigit_hexDigit hlow) hcontrol ?_
    unfold hexWord
    rw [hexValue_hexDigit hhigh, hexValue_hexDigit hlow, hzero]
    omega
  · next hvisible => exact .plain hquote hbackslash (Nat.le_of_not_lt hvisible)

/-- No control character is written. -/
theorem Escape.visible {c e : Char} {w : List Char} (h : Escape c w) (he : e ∈ w) :
    0x20 ≤ e.toNat := by
  have hhex : ∀ x : Char, Tree.isHexDigit x = true → 0x20 ≤ x.toNat := by
    intro x hx
    simp only [Tree.isHexDigit, isDigit, Bool.or_eq_true, Bool.and_eq_true, decide_eq_true_eq,
      Char.le_def, UInt32.le_iff_toNat_le] at hx
    unfold Char.toNat
    obtain ((h | h) | h) := hx
    · exact Nat.le_trans (by decide) h.1
    · exact Nat.le_trans (by decide) h.1
    · exact Nat.le_trans (by decide) h.1
  cases h with
  | short e hable hstands =>
    simp only [Tree.isEscapable, Bool.or_eq_true, beq_iff_eq] at hable
    simp only [List.mem_cons, List.not_mem_nil, or_false] at he
    obtain rfl | rfl := he
    · decide
    · obtain (((((((rfl | rfl) | rfl) | rfl) | rfl) | rfl) | rfl) | rfl) := hable <;> decide
  | numbered x y hx hy hcontrol hnumber =>
    simp only [List.mem_cons, List.not_mem_nil, or_false] at he
    obtain rfl | rfl | rfl | rfl | rfl | rfl := he
    · decide
    · decide
    · decide
    · decide
    · exact hhex _ hx
    · exact hhex _ hy
  | plain hquote hbackslash hvisible =>
    rw [List.mem_singleton.mp he]
    exact hvisible

/-- The characters of a string as they are written. -/
def escapedText (s : String) : List Char :=
  s.toList.flatMap escapedChar

theorem stringText_eq (s : String) : stringText s = '"' :: (escapedText s ++ ['"']) :=
  rfl

/-- A string is written without control characters. -/
theorem visible_of_mem_escapedText {s : String} {c : Char} (h : c ∈ escapedText s) :
    0x20 ≤ c.toNat := by
  obtain ⟨source, -, hc⟩ := List.mem_flatMap.mp h
  exact (escape_escapedChar source).visible hc

theorem visible_of_mem_stringText {s : String} {c : Char} (h : c ∈ stringText s) :
    0x20 ≤ c.toNat := by
  rw [stringText_eq, List.mem_cons, List.mem_append, List.mem_singleton] at h
  obtain rfl | h | rfl := h
  · decide
  · exact visible_of_mem_escapedText h
  · decide

namespace Tree

/-- A reader of a string goes on after a character, which it takes as it is written. -/
theorem readString_escape {c : Char} {w : List Char} (h : Escape c w) (rest : List Char) :
    readString (w ++ rest) = (readString rest).map fun (raw, after) => (w ++ raw, after) := by
  cases h with
  | short e hable hstands =>
    -- `u` cannot be named, so that this is not the beginning of an escape by number.
    have hu : e ≠ 'u' := by
      rintro rfl
      cases hable
    show readString ('\\' :: e :: rest) = _
    rw [readString.eq_def]
    split
    · next heq => cases heq
    · next heq => exact absurd (List.cons.inj heq).1 (by decide)
    · next heq => exact absurd (List.cons.inj (List.cons.inj heq).2).1 hu
    · next heq =>
      cases heq
      exact if_pos hable
    · next heq => cases heq
    · next hescape _ heq => exact (hescape e rest (List.cons.inj heq).1.symm
        (List.cons.inj heq).2.symm).elim
  | numbered x y hx hy hcontrol hnumber =>
    have hzero : isHexDigit '0' = true := rfl
    show readString ('\\' :: 'u' :: '0' :: '0' :: x :: y :: rest) = _
    rw [readString.eq_def]
    show (if isHexDigit '0' && isHexDigit '0' && isHexDigit x && isHexDigit y then _ else none) = _
    rw [hx, hy, hzero]
    rfl
  | plain hquote hbackslash hvisible =>
    show readString (c :: rest) = _
    rw [readString.eq_def]
    split
    · next heq => cases heq
    · next heq => exact absurd (List.cons.inj heq).1 hquote
    · next heq => exact absurd (List.cons.inj heq).1 hbackslash
    · next heq => exact absurd (List.cons.inj heq).1 hbackslash
    · next heq => exact absurd (List.cons.inj heq).1 hbackslash
    · next heq =>
      cases heq
      exact if_neg (Nat.not_lt_of_le hvisible)

/-- A string is read up to its closing quote. -/
theorem readString_written (s : String) (rest : List Char) :
    readString (escapedText s ++ '"' :: rest) = some (escapedText s, rest) := by
  unfold escapedText
  induction s.toList with
  | nil => rfl
  | cons c cs ih =>
    rw [List.flatMap_cons, List.append_assoc, readString_escape (escape_escapedChar c), ih]
    rfl

end Tree

theorem unescape?_escape {c : Char} {w : List Char} (h : Escape c w) (rest : List Char) :
    unescape? (w ++ rest) = (unescape? rest).map (c :: ·) := by
  cases h with
  | short e hable hstands =>
    have hu : e ≠ 'u' := by
      rintro rfl
      cases hable
    show unescape? ('\\' :: e :: rest) = _
    rw [unescape?]
    · rw [hstands]
    · intro _ _ _ _ _ he
      exact absurd he hu
  | numbered x y hx hy hcontrol hnumber =>
    show unescape? ('\\' :: 'u' :: '0' :: '0' :: x :: y :: rest) = _
    have hlead : decide (hexWord '0' '0' x y < 0xD800) = true := by
      rw [hnumber]
      exact decide_eq_true (by omega)
    rw [unescape?.eq_def]
    show (if decide (hexWord '0' '0' x y < 0xD800) || _ then
      (unescape? rest).map (Char.ofNat (hexWord '0' '0' x y) :: ·) else _) = _
    rw [hlead, Bool.true_or, if_pos rfl, hnumber, Char.ofNat_toNat]
  | plain hquote hbackslash hvisible =>
    show unescape? (c :: rest) = _
    rw [unescape?]
    · intro _ _ _ _ _ hc
      exact absurd hc hbackslash
    · intro _ _ hc
      exact absurd hc hbackslash

/-- The characters of a string are those it was written from. -/
@[simp] theorem unescape?_escapedText (s : String) : unescape? (escapedText s) = some s.toList := by
  unfold escapedText
  induction s.toList with
  | nil => rfl
  | cons c cs ih =>
    rw [List.flatMap_cons, unescape?_escape (escape_escapedChar c), ih]
    rfl

/-! ## Values -/

namespace Tree

/-- An object with some members, whose names are written as strings are. -/
def ofMembers (members : List (String × Tree)) : Tree :=
  .object (members.map fun (name, t) => (escapedText name, t))

/-- A text that begins with something else than a space. -/
theorem skipSpace_cons {c : Char} (h : isSpace c = false) (s : List Char) :
    skipSpace (c :: s) = c :: s := by
  unfold skipSpace
  rw [List.dropWhile_cons, h]
  rfl

/-- A string is a value. -/
theorem read_string (fuel : Nat) (s : List Char) :
    read (fuel + 1) ('"' :: s) = (readString s).map fun (raw, after) => (.string raw, after) :=
  rfl

/-- What follows an opening bracket. -/
theorem read_array (fuel : Nat) (s : List Char) : read (fuel + 1) ('[' :: s) =
    match skipSpace s with
    | ']' :: rest => some (.array [], rest)
    | rest => (readItems fuel rest).map fun (items, after) => (.array items, after) :=
  rfl

/-- What follows an opening brace. -/
theorem read_object (fuel : Nat) (s : List Char) : read (fuel + 1) ('\x7b' :: s) =
    match skipSpace s with
    | '\x7d' :: rest => some (.object [], rest)
    | rest => (readFields fuel rest).map fun (fields, after) => (.object fields, after) :=
  rfl

section Members

variable {fuel : Nat} {s rest : List Char} {value : Tree}

theorem skipSpace_member (name : String) (s : List Char) :
    skipSpace (stringText name ++ ':' :: s) = '"' :: (escapedText name ++ '"' :: ':' :: s) := by
  rw [stringText_eq, List.cons_append, List.append_assoc]
  exact skipSpace_cons rfl _

/-- The last member of an object: its name, a colon, its value and the closing brace. -/
theorem readFields_last (name : String) (h : read fuel s = some (value, '\x7d' :: rest)) :
    readFields (fuel + 1) (stringText name ++ ':' :: s) =
      some ([(escapedText name, value)], rest) := by
  have hcolon : skipSpace (':' :: s) = ':' :: s := rfl
  have hbrace : skipSpace ('\x7d' :: rest) = '\x7d' :: rest := rfl
  rw [readFields]
  simp only [skipSpace_member, readString_written, hcolon, h, hbrace]

/-- A member of an object with a comma after it. -/
theorem readFields_more (name : String) (h : read fuel s = some (value, ',' :: rest)) :
    readFields (fuel + 1) (stringText name ++ ':' :: s) =
      (readFields fuel rest).map fun (fields, after) =>
        ((escapedText name, value) :: fields, after) := by
  have hcolon : skipSpace (':' :: s) = ':' :: s := rfl
  have hcomma : skipSpace (',' :: rest) = ',' :: rest := rfl
  rw [readFields]
  simp only [skipSpace_member, readString_written, hcolon, h, hcomma]

end Members

end Tree

namespace Json

open RegistryDedup.Tree

theorem compactItems_cons (v : Json) {items : List Json} (hne : items ≠ []) :
    compactItems (v :: items) = v.compactText ++ ',' :: compactItems items := by
  obtain ⟨w, rest, rfl⟩ := List.exists_cons_of_ne_nil hne
  rfl

theorem compactFields_cons (name : String) (v : Json) {fields : List (String × Json)}
    (hne : fields ≠ []) : compactFields ((name, v) :: fields) =
      stringText name ++ ':' :: v.compactText ++ ',' :: compactFields fields := by
  obtain ⟨field, rest, rfl⟩ := List.exists_cons_of_ne_nil hne
  rfl

/-- The members of an object begin with the quote of a name. -/
theorem opens_fields {fields : List (String × Json)} (hne : fields ≠ []) :
    ∃ rest, compactFields fields = '"' :: rest := by
  obtain ⟨⟨name, v⟩, fields, rfl⟩ := List.exists_cons_of_ne_nil hne
  cases fields with
  | nil => exact ⟨_, rfl⟩
  | cons field fields => exact ⟨_, rfl⟩

/-- A value is read as a tree. -/
structure ReadsAs (v : Json) (t : Tree) : Prop where
  /-- The text begins with neither a space nor the end of an array. -/
  opens : ∃ c rest, v.compactText = c :: rest ∧ isSpace c = false ∧ c ≠ ']'
  /-- No control character is in the text. -/
  visible : ∀ c ∈ v.compactText, 0x20 ≤ c.toNat
  /-- A reader with a step of fuel for each character takes the text, whatever follows. -/
  read : ∀ (fuel : Nat) (rest : List Char), v.compactText.length ≤ fuel →
    Tree.read fuel (v.compactText ++ rest) = some (t, rest)

namespace ReadsAs

theorem null : ReadsAs .null .null where
  opens := ⟨'n', _, rfl, rfl, by decide⟩
  visible c hc := by
    have hall : ['n', 'u', 'l', 'l'].all (fun c => decide (0x20 ≤ c.toNat)) = true := rfl
    exact of_decide_eq_true (List.all_eq_true.mp hall c hc)
  read fuel rest hfuel := by
    obtain _ | fuel := fuel
    · exact absurd hfuel (by decide)
    · rfl

theorem str (s : String) : ReadsAs (.str s) (.string (escapedText s)) where
  opens := ⟨'"', _, rfl, rfl, by decide⟩
  visible _ hc := visible_of_mem_stringText hc
  read fuel rest hfuel := by
    obtain _ | fuel := fuel
    · exact absurd hfuel (Nat.not_succ_le_zero _)
    · show Tree.read (fuel + 1) ('"' :: (escapedText s ++ ['"']) ++ rest) = _
      rw [List.cons_append, List.append_assoc, read_string]
      show (readString (escapedText s ++ '"' :: rest)).map _ = _
      rw [readString_written]
      rfl

/-! ### Arrays -/

variable {items : List Json} {trees : List Tree}

theorem opens_items (h : List.Forall₂ ReadsAs items trees) (hne : items ≠ []) :
    ∃ c rest, compactItems items = c :: rest ∧ isSpace c = false ∧ c ≠ ']' := by
  cases h with
  | nil => exact absurd rfl hne
  | @cons v t items trees hv h =>
    obtain ⟨c, rest, htext, hstart⟩ := hv.opens
    by_cases hlast : items = []
    · subst hlast
      exact ⟨c, rest, htext, hstart⟩
    · rw [compactItems_cons v hlast, htext]
      exact ⟨c, _, rfl, hstart⟩

theorem visible_items (h : List.Forall₂ ReadsAs items trees) {c : Char}
    (hc : c ∈ compactItems items) : 0x20 ≤ c.toNat := by
  induction h with
  | nil => cases hc
  | @cons v t items trees hv h ih =>
    by_cases hlast : items = []
    · subst hlast
      exact hv.visible c hc
    · rw [compactItems_cons v hlast, List.mem_append, List.mem_cons] at hc
      obtain hc | rfl | hc := hc
      · exact hv.visible c hc
      · decide
      · exact ih hc

/-- The items of an array are read up to its closing bracket. -/
theorem readItems_written (h : List.Forall₂ ReadsAs items trees) (hne : items ≠ []) (fuel : Nat)
    (rest : List Char) (hfuel : (compactItems items).length < fuel) :
    readItems fuel (compactItems items ++ ']' :: rest) = some (trees, rest) := by
  induction h generalizing fuel with
  | nil => exact absurd rfl hne
  | @cons v t items trees hv h ih =>
    obtain _ | fuel := fuel
    · exact absurd hfuel (Nat.not_lt_zero _)
    rw [readItems]
    by_cases hlast : items = []
    · -- The bracket follows the last item.
      subst hlast
      cases h
      have hlength : v.compactText.length ≤ fuel := Nat.lt_succ_iff.mp hfuel
      have hone : compactItems [v] = v.compactText := rfl
      rw [hone, hv.read fuel _ hlength]
      rfl
    · -- The comma pays for the step to the next item.
      rw [compactItems_cons v hlast] at hfuel ⊢
      rw [List.length_append, List.length_cons] at hfuel
      rw [List.append_assoc, hv.read fuel _ (by omega)]
      have hitems := ih hlast fuel (by omega)
      show (readItems fuel (compactItems items ++ ']' :: rest)).map _ = _
      rw [hitems]
      rfl

theorem arr (h : List.Forall₂ ReadsAs items trees) : ReadsAs (.arr items) (.array trees) where
  opens := ⟨'[', _, rfl, rfl, by decide⟩
  visible c hc := by
    change c ∈ '[' :: compactItems items ++ [']'] at hc
    rw [List.cons_append, List.mem_cons, List.mem_append, List.mem_singleton] at hc
    obtain rfl | hc | rfl := hc
    · decide
    · exact visible_items h hc
    · decide
  read fuel rest hfuel := by
    have hlength : (compactItems items).length + 2 ≤ fuel := by
      have heq : (Json.arr items).compactText.length = (compactItems items).length + 2 := by
        show ('[' :: compactItems items ++ [']']).length = _
        simp
      omega
    obtain _ | fuel := fuel
    · exact absurd hlength (Nat.not_succ_le_zero _)
    show Tree.read (fuel + 1) ('[' :: compactItems items ++ [']'] ++ rest) = _
    rw [List.append_assoc, List.cons_append, read_array]
    by_cases hne : items = []
    · subst hne
      cases h
      rfl
    · obtain ⟨c, text, htext, hspace, hbracket⟩ := opens_items h hne
      have hitems := readItems_written h hne fuel rest (by omega)
      rw [htext] at hitems ⊢
      rw [List.cons_append, skipSpace_cons hspace]
      -- What begins an item does not end the array.
      show _ = some (Tree.array trees, rest)
      split
      · next heq => exact absurd (List.cons.inj heq).1 hbracket
      · show (readItems fuel (c :: text ++ ']' :: rest)).map _ = _
        rw [hitems]
        rfl

/-! ### Objects -/

/-- A member of an object is read under its name. -/
def Member (field : String × Json) (member : String × Tree) : Prop :=
  field.1 = member.1 ∧ ReadsAs field.2 member.2

variable {fields : List (String × Json)} {members : List (String × Tree)}

theorem visible_fields (h : List.Forall₂ Member fields members) {c : Char}
    (hc : c ∈ compactFields fields) : 0x20 ≤ c.toNat := by
  induction h with
  | nil => cases hc
  | @cons field member fields members hfield h ih =>
    obtain ⟨name, v⟩ := field
    have hv : ReadsAs v member.2 := hfield.2
    have hmember : c ∈ stringText name ++ ':' :: v.compactText → 0x20 ≤ c.toNat := by
      intro hc
      rw [List.mem_append, List.mem_cons] at hc
      obtain hc | rfl | hc := hc
      · exact visible_of_mem_stringText hc
      · decide
      · exact hv.visible c hc
    by_cases hlast : fields = []
    · subst hlast
      exact hmember hc
    · rw [compactFields_cons name v hlast, List.mem_append, List.mem_cons] at hc
      obtain hc | rfl | hc := hc
      · exact hmember hc
      · decide
      · exact ih hc

/-- The members of an object are read up to its closing brace. -/
theorem readFields_written (h : List.Forall₂ Member fields members) (hne : fields ≠ []) (fuel : Nat)
    (rest : List Char) (hfuel : (compactFields fields).length < fuel) :
    readFields fuel (compactFields fields ++ '\x7d' :: rest) =
      some (members.map fun (name, t) => (escapedText name, t), rest) := by
  induction h generalizing fuel with
  | nil => exact absurd rfl hne
  | @cons field member fields members hfield h ih =>
    obtain ⟨name, v⟩ := field
    obtain ⟨name, t⟩ := member
    obtain ⟨rfl, hv⟩ := hfield
    obtain _ | fuel := fuel
    · exact absurd hfuel (Nat.not_lt_zero _)
    by_cases hlast : fields = []
    · -- The brace follows the last member.
      subst hlast
      cases h
      have hlength : v.compactText.length ≤ fuel := by
        have heq : (compactFields [(name, v)]).length =
            (stringText name).length + (v.compactText.length + 1) := List.length_append
        omega
      show readFields (fuel + 1) (stringText name ++ ':' :: v.compactText ++ '\x7d' :: rest) = _
      rw [List.append_assoc, List.cons_append,
        readFields_last name (hv.read fuel ('\x7d' :: rest) hlength)]
      rfl
    · rw [compactFields_cons name v hlast] at hfuel ⊢
      simp only [List.length_append, List.length_cons] at hfuel
      have hread := hv.read fuel (',' :: (compactFields fields ++ '\x7d' :: rest))
        (show v.compactText.length ≤ fuel by omega)
      rw [List.append_assoc, List.append_assoc, List.cons_append, List.cons_append,
        readFields_more name hread]
      have hfields := ih hlast fuel (by omega)
      show (readFields fuel (compactFields fields ++ '\x7d' :: rest)).map _ = _
      rw [hfields]
      rfl

theorem obj (h : List.Forall₂ Member fields members) :
    ReadsAs (.obj fields) (.ofMembers members) where
  opens := ⟨'\x7b', _, rfl, rfl, by decide⟩
  visible c hc := by
    change c ∈ '\x7b' :: compactFields fields ++ ['\x7d'] at hc
    rw [List.cons_append, List.mem_cons, List.mem_append, List.mem_singleton] at hc
    obtain rfl | hc | rfl := hc
    · decide
    · exact visible_fields h hc
    · decide
  read fuel rest hfuel := by
    have hlength : (compactFields fields).length + 2 ≤ fuel := by
      have heq : (Json.obj fields).compactText.length = (compactFields fields).length + 2 := by
        show ('\x7b' :: compactFields fields ++ ['\x7d']).length = _
        simp
      omega
    obtain _ | fuel := fuel
    · exact absurd hlength (Nat.not_succ_le_zero _)
    show Tree.read (fuel + 1) ('\x7b' :: compactFields fields ++ ['\x7d'] ++ rest) = _
    rw [List.append_assoc, List.cons_append, read_object]
    by_cases hne : fields = []
    · subst hne
      cases h
      rfl
    · obtain ⟨text, htext⟩ := opens_fields hne
      have hfields := readFields_written h hne fuel rest (by omega)
      rw [htext] at hfields ⊢
      show (readFields fuel ('"' :: text ++ '\x7d' :: rest)).map _ = _
      rw [hfields]
      rfl

end ReadsAs

/-- The text of a value is read as its tree, with nothing around it. -/
theorem ReadsAs.ofText? {v : Json} {t : Tree} (h : ReadsAs v t) :
    Tree.ofText? v.compactText = some t := by
  have hread := h.read (2 * v.compactText.length + 2) [] (by omega)
  rw [List.append_nil] at hread
  unfold Tree.ofText?
  rw [hread]
  rfl

/-- A list of values is read item by item. -/
theorem ReadsAs.exists_trees {α : Type} {item : α → Json} {item? : Tree → Option α} {xs : List α}
    (h : ∀ x ∈ xs, ∃ t, ReadsAs (item x) t ∧ item? t = some x) :
    ∃ trees, List.Forall₂ ReadsAs (xs.map item) trees ∧ trees.mapM item? = some xs := by
  induction xs with
  | nil => exact ⟨[], .nil, rfl⟩
  | cons x xs ih =>
    obtain ⟨t, ht, hx⟩ := h x List.mem_cons_self
    obtain ⟨trees, htrees, hxs⟩ := ih fun y hy => h y (List.mem_cons_of_mem x hy)
    refine ⟨t :: trees, .cons ht htrees, ?_⟩
    rw [List.mapM_cons, hx, hxs]
    rfl

end Json

/-! ## Records -/

namespace Tree

/-- A string is read as the text it was written from. -/
@[simp] theorem text?_string (s : String) : text? (.string (escapedText s)) = some s := by
  show (unescape? (escapedText s)).map String.ofList = some s
  rw [unescape?_escapedText]
  exact congrArg some String.ofList_toList

@[simp] theorem textMember?_string (s : String) :
    textMember? (some (.string (escapedText s))) = some s :=
  text?_string s

/-- Steps that all succeed give the list of what they give. -/
theorem mapM_map_eq_some_map {α β γ : Type} {f : β → Option γ} {g : α → β} {k : α → γ}
    {xs : List α} (h : ∀ x ∈ xs, f (g x) = some (k x)) : (xs.map g).mapM f = some (xs.map k) := by
  induction xs with
  | nil => rfl
  | cons x xs ih =>
    have hxs := ih fun y hy => h y (List.mem_cons_of_mem x hy)
    rw [List.map_cons, List.mapM_cons, h x List.mem_cons_self, hxs]
    rfl

/-- What is read back item by item is read back. -/
theorem mapM_map_eq_some {α β : Type} {f : β → Option α} {g : α → β} {xs : List α}
    (h : ∀ x ∈ xs, f (g x) = some x) : (xs.map g).mapM f = some xs := by
  rw [mapM_map_eq_some_map (k := fun x => x) h, List.map_id']

/-- Under each name of a list without repetition there is one member. -/
theorem filter_fst_eq {members : List (String × Tree)} (hnodup : (members.map Prod.fst).Nodup)
    {member : String × Tree} (h : member ∈ members) :
    members.filter (·.1 == member.1) = [member] := by
  induction members with
  | nil => cases h
  | cons first members ih =>
    obtain ⟨hfirst, hrest⟩ := List.nodup_cons.mp hnodup
    obtain rfl | hmem := List.mem_cons.mp h
    · -- No other member has the name of the first one.
      have hnone : members.filter (·.1 == member.1) = [] := by
        refine List.filter_eq_nil_iff.mpr fun other hother hname => hfirst ?_
        rw [← beq_iff_eq.mp hname]
        exact List.mem_map_of_mem hother
      rw [List.filter_cons, beq_self_eq_true, if_pos rfl, hnone]
    · have hname : first.1 ≠ member.1 := fun heq => hfirst (heq ▸ List.mem_map_of_mem hmem)
      rw [List.filter_cons, beq_false_of_ne hname, if_neg Bool.false_ne_true, ih hrest hmem]

/-- The members of a record that is written as an object, each of them once. -/
theorem members?_written {members : List (String × Tree)}
    (hnodup : (members.map Prod.fst).Nodup) :
    members? (members.map Prod.fst) (.ofMembers members) =
      some (members.map fun (_, t) => some t) := by
  have hname : ∀ member ∈ members, (do
      return (String.ofList (← unescape? (escapedText member.1)), member.2) :
      Option (String × Tree)) = some member := by
    intro member _
    rw [unescape?_escapedText]
    show some (String.ofList member.1.toList, member.2) = some member
    rw [String.ofList_toList]
  show pickMembers? _ (members.map fun (name, t) => (escapedText name, t)) = _
  unfold pickMembers?
  rw [mapM_map_eq_some hname]
  show (members.map Prod.fst).mapM _ = _
  refine mapM_map_eq_some_map fun member hmem => ?_
  rw [filter_fst_eq hnodup hmem]

end Tree

end RegistryDedup
