import RegistryDedup.Proofs.Text.Split
import RegistryDedup.Proofs.Text.Utf8
import RegistryDedup.Url.Encode

/-!
# Queries of names and values

What is written into a query is read out of it again, whatever characters it has: a character that
separates names and values is given by number wherever it belongs to one of them.

- `percentDecoded_percentChar`: a character that is given by number.
- `formDecoded_formEncoded`: a name or a value.
- `formPairs_formQuery`, `formPairs_append`: a whole query, and one that goes on.
-/

namespace RegistryDedup.Url

open Text

variable {a c : Char} {s t : List Char}

/-! ## Characters -/

/-- A digit in base sixteen, upper case, has its value. -/
theorem hexDigit?_toUpper {n : Nat} (hn : n < 16) :
    hexDigit? (Nat.digitChar n).toUpper = some n := by
  have hall : ∀ n : Fin 16, hexDigit? (Nat.digitChar n.val).toUpper = some n.val := by
    decide
  exact hall ⟨n, hn⟩

theorem isFormPlain_toUpper {n : Nat} (hn : n < 16) :
    isFormPlain (Nat.digitChar n).toUpper = true := by
  have hall : ∀ n : Fin 16, isFormPlain (Nat.digitChar n.val).toUpper = true := by
    decide
  exact hall ⟨n, hn⟩

theorem percentDecoded_percentByte (b : UInt8) (more : List Char) :
    percentDecoded (percentByte b ++ more) = b :: percentDecoded more := by
  have hb : b.toNat < 256 := b.toNat_lt
  have hhigh := hexDigit?_toUpper (n := b.toNat / 16) (by omega)
  have hlow := hexDigit?_toUpper (n := b.toNat % 16) (by omega)
  show percentDecoded ('%' :: _ :: _ :: more) = _
  rw [percentDecoded, hhigh, hlow]
  show UInt8.ofNat (16 * (b.toNat / 16) + b.toNat % 16) :: _ = _
  rw [Nat.div_add_mod, UInt8.ofNat_toNat]

theorem percentDecoded_flatMap (bytes : List UInt8) (more : List Char) :
    percentDecoded (bytes.flatMap percentByte ++ more) = bytes ++ percentDecoded more := by
  induction bytes with
  | nil => rfl
  | cons b bytes ih =>
    rw [List.flatMap_cons, List.append_assoc, percentDecoded_percentByte, ih, List.cons_append]

/-- A character that is given by number. -/
theorem percentDecoded_percentChar (c : Char) (more : List Char) :
    percentDecoded (percentChar c ++ more) = String.utf8EncodeChar c ++ percentDecoded more :=
  percentDecoded_flatMap _ more

/-- A character that stands for itself. -/
theorem percentDecoded_cons (hc : c ≠ '%') (more : List Char) :
    percentDecoded (c :: more) = String.utf8EncodeChar c ++ percentDecoded more := by
  rw [percentDecoded]
  intro a b rest heq
  exact absurd heq hc

/-! ## Names and values -/

/-- How a character of a name or value is written. -/
def formChar (c : Char) : List Char :=
  if isFormPlain c then [c] else if c = ' ' then ['+'] else percentChar c

/-- A plus sign stands for a space. -/
def plusAsSpace (c : Char) : Char :=
  if c = '+' then ' ' else c

theorem formEncoded_eq (s : String) : formEncoded s = s.toList.flatMap formChar := rfl

theorem formDecoded_eq (s : List Char) :
    formDecoded s = String.ofList (Utf8.decodeLossy (percentDecoded (s.map plusAsSpace))) := rfl

theorem ne_of_isFormPlain {mark : Char} (hc : isFormPlain c = true)
    (hmark : isFormPlain mark = false) : c ≠ mark := by
  rintro rfl
  rw [hc] at hmark
  cases hmark

/-- The bytes of a character by number: a percent sign, and digits. -/
theorem mem_percentChar (hc : c ∈ percentChar a) : c = '%' ∨ isFormPlain c = true := by
  obtain ⟨b, -, hcb⟩ := List.mem_flatMap.mp hc
  have hb : b.toNat < 256 := b.toNat_lt
  rw [percentByte, List.mem_cons, List.mem_cons, List.mem_singleton] at hcb
  obtain rfl | rfl | rfl := hcb
  · exact .inl rfl
  · exact .inr (isFormPlain_toUpper (by omega))
  · exact .inr (isFormPlain_toUpper (by omega))

theorem mem_formEncoded {s : String} (hc : c ∈ formEncoded s) :
    c = '%' ∨ c = '+' ∨ isFormPlain c = true := by
  obtain ⟨a, -, hca⟩ := List.mem_flatMap.mp hc
  split at hca
  · next ha =>
    rw [List.mem_singleton.mp hca]
    exact .inr (.inr ha)
  split at hca
  · exact .inr (.inl (List.mem_singleton.mp hca))
  · exact (mem_percentChar hca).imp_right .inr

/-- What separates names and values is in none of them. -/
theorem not_mem_formEncoded {mark : Char} (hpercent : mark ≠ '%') (hplus : mark ≠ '+')
    (hplain : isFormPlain mark = false) (s : String) : mark ∉ formEncoded s := by
  intro hmem
  obtain h | h | h := mem_formEncoded hmem
  · exact hpercent h
  · exact hplus h
  · rw [hplain] at h
    cases h

theorem map_plusAsSpace_percentChar (c : Char) :
    (percentChar c).map plusAsSpace = percentChar c := by
  -- No plus sign is among what is written, so that none is taken for a space.
  have hsame : ∀ d ∈ percentChar c, plusAsSpace d = id d := by
    intro d hd
    refine if_neg ?_
    rintro rfl
    exact (mem_percentChar hd).elim (by decide) (by decide)
  rw [List.map_congr_left hsame, List.map_id]

/-- A character of a name or value is read as it was meant. -/
theorem percentDecoded_formChar (c : Char) (more : List Char) :
    percentDecoded ((formChar c ++ more).map plusAsSpace) =
      String.utf8EncodeChar c ++ percentDecoded (more.map plusAsSpace) := by
  rw [List.map_append, formChar]
  split
  · next hc =>
    have hplus : plusAsSpace c = c := if_neg (ne_of_isFormPlain hc rfl)
    rw [List.map_singleton, hplus]
    exact percentDecoded_cons (ne_of_isFormPlain hc rfl) _
  split
  · next hc =>
    rw [hc]
    exact percentDecoded_cons (by decide) _
  · rw [map_plusAsSpace_percentChar, percentDecoded_percentChar]

/-- A name or value is read as it was meant. -/
@[simp] theorem formDecoded_formEncoded (s : String) : formDecoded (formEncoded s) = s := by
  have hbytes : ∀ s : List Char,
      percentDecoded ((s.flatMap formChar).map plusAsSpace) = Utf8.encode s := by
    intro s
    induction s with
    | nil => rfl
    | cons c s ih =>
      rw [List.flatMap_cons, percentDecoded_formChar, ih]
      rfl
  rw [formDecoded_eq, formEncoded_eq, hbytes, Utf8.decodeLossy_encode, String.ofList_toList]

/-! ## Queries -/

/-- A name with its value as they stand in a query. -/
def formPart (pair : String × String) : List Char :=
  formEncoded pair.1 ++ '=' :: formEncoded pair.2

theorem formQuery_eq_joinWith (pairs : List (String × String)) :
    formQuery pairs = joinWith ['&'] (pairs.map formPart) := by
  induction pairs with
  | nil => rfl
  | cons pair pairs ih =>
    cases pairs with
    | nil => rfl
    | cons next pairs =>
      have hrest : (next :: pairs).map formPart ≠ [] := List.cons_ne_nil _ _
      rw [List.map_cons, joinWith_cons hrest, ← ih, List.append_assoc]
      rfl

theorem not_mem_formPart (pair : String × String) : '&' ∉ formPart pair := by
  rw [formPart, List.mem_append, List.mem_cons]
  rintro (h | h | h)
  · exact not_mem_formEncoded (by decide) (by decide) rfl _ h
  · exact absurd h (by decide)
  · exact not_mem_formEncoded (by decide) (by decide) rfl _ h

theorem cutAtFirst_formPart (pair : String × String) :
    cutAtFirst '=' (formPart pair) = some (formEncoded pair.1, formEncoded pair.2) :=
  cutAtFirst_eq_some_iff.mpr ⟨rfl, not_mem_formEncoded (by decide) (by decide) rfl _⟩

/-- What a part of a query names. -/
def readPart (part : List Char) : String × String :=
  match cutAtFirst '=' part with
  | some (name, value) => (formDecoded name, formDecoded value)
  | none => (formDecoded part, "")

@[simp] theorem readPart_formPart (pair : String × String) : readPart (formPart pair) = pair := by
  rw [readPart, cutAtFirst_formPart]
  simp

theorem formPairs_eq (query : List Char) :
    formPairs query = ((splitOn '&' query).filter (!·.isEmpty)).map readPart := rfl

/-- A query that goes on has the names of its first part and then those of the rest. -/
theorem formPairs_append (s t : List Char) :
    formPairs (s ++ '&' :: t) = formPairs s ++ formPairs t := by
  simp only [formPairs_eq, splitOn_append, List.filter_append, List.map_append]

/-- The names and values of a query are those that were written. -/
theorem formPairs_formQuery (pairs : List (String × String)) :
    formPairs (formQuery pairs) = pairs := by
  by_cases hne : pairs = []
  · subst hne
    rfl
  · have hparts : splitOn '&' (formQuery pairs) = pairs.map formPart := by
      rw [formQuery_eq_joinWith]
      refine splitOn_joinWith (by simpa using hne) ?_
      rw [List.forall_mem_map]
      exact fun pair _ => not_mem_formPart pair
    -- Empty parts do not count, but a part has its equals sign at least.
    have hkept : (pairs.map formPart).filter (!·.isEmpty) = pairs.map formPart := by
      rw [List.filter_eq_self, List.forall_mem_map]
      intro pair _
      simp [formPart]
    rw [formPairs_eq, hparts, hkept, List.map_map]
    calc pairs.map (readPart ∘ formPart) = pairs.map id :=
          List.map_congr_left fun pair _ => readPart_formPart pair
      _ = pairs := List.map_id pairs

end RegistryDedup.Url
