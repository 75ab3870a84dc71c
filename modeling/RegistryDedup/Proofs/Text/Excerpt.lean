import Mathlib.Data.Nat.Find
import Mathlib.Data.String.Basic
import RegistryDedup.Proofs.Text.Utf8
import RegistryDedup.Text.Excerpt

/-!
# Texts that are cut off

The cut is made among bytes, and what is kept is a text. The byte at a place tells whether a
character begins there: the bytes of a text are those of its characters, and of these the first one
alone does not go on with a character. The walk back from the limit therefore ends at the last place
up to it that is valid in the text, and that place is not far: the character in which the limit lies
has at most four bytes.

- `byteLength_append`, `byteLength_toList`, `length_encode`: how many bytes a text has.
- `exists_exceeding`: the character in which a limit lies.
- `isBoundary_iff_isValid`: the places between the characters of a text are found by its bytes.
- `lastBoundary?_eq`: the walk back ends at the greatest boundary up to the place where it begins.
- `LongestWithin`: the longest beginning of a text that has at most so many bytes.
- `excerptText_longest`: an excerpt is the text, or that beginning and an ellipsis.
-/

namespace RegistryDedup.Text

variable {c : Char} {s t : List Char} {max place : Nat}

/-! ## Bytes of a text -/

@[simp] theorem byteLength_cons (c : Char) (s : List Char) :
    byteLength (c :: s) = c.utf8Size + byteLength s :=
  rfl

theorem byteLength_eq (s : List Char) : byteLength s = String.utf8Len s := by
  induction s with
  | nil => rfl
  | cons c s ih => rw [byteLength_cons, ih, String.utf8Len_cons, Nat.add_comm]

theorem byteLength_append (s t : List Char) :
    byteLength (s ++ t) = byteLength s + byteLength t := by
  rw [byteLength_eq, byteLength_eq, byteLength_eq, String.utf8Len_append]

theorem byteLength_pos (h : s ≠ []) : 0 < byteLength s := by
  obtain ⟨c, s, rfl⟩ := List.exists_cons_of_ne_nil h
  rw [byteLength_cons]
  exact Nat.lt_of_lt_of_le c.utf8Size_pos (Nat.le_add_right _ _)

/-- A beginning that has as many bytes is the whole text. -/
theorem eq_of_prefix_of_byteLength_le (h : s <+: t) (hlength : byteLength t ≤ byteLength s) :
    s = t := by
  obtain ⟨rest, rfl⟩ := h
  have hrest : rest = [] := by
    by_contra hne
    have hpos := byteLength_pos hne
    rw [byteLength_append] at hlength
    omega
  rw [hrest, List.append_nil]

theorem byteLength_toList (s : String) : byteLength s.toList = s.utf8ByteSize := by
  rw [byteLength_eq, String.utf8Len_toList]

theorem length_encode (s : List Char) : (Utf8.encode s).length = byteLength s := by
  induction s with
  | nil => rfl
  | cons c s ih =>
    rw [Utf8.encode_cons, List.length_append, String.length_utf8EncodeChar, ih, byteLength_cons]

/-- In a text with more bytes than a limit, the limit lies in one of the characters. -/
theorem exists_exceeding (h : max < byteLength s) :
    ∃ t c rest, s = t ++ c :: rest ∧ byteLength t ≤ max ∧ max < byteLength t + c.utf8Size := by
  induction s generalizing max with
  | nil => exact absurd h (Nat.not_lt_zero _)
  | cons c s ih =>
    rcases Nat.lt_or_ge max c.utf8Size with hlt | hge
    · exact ⟨[], c, s, rfl, Nat.zero_le _, Nat.lt_of_lt_of_eq hlt (Nat.zero_add _).symm⟩
    · obtain ⟨left, rfl⟩ := Nat.exists_eq_add_of_le hge
      rw [byteLength_cons, Nat.add_lt_add_iff_left] at h
      obtain ⟨t, d, rest, rfl, hle, hlt⟩ := ih h
      refine ⟨c :: t, d, rest, rfl, ?_, ?_⟩
      · rw [byteLength_cons]
        exact Nat.add_le_add_left hle _
      · rw [byteLength_cons, Nat.add_assoc]
        exact Nat.add_lt_add_left hlt _

/-! ## Boundaries -/

theorem isBoundary_iff {bytes : List UInt8} : isBoundary bytes place = true ↔
    place = 0 ∨ place = bytes.length ∨ ∃ b, bytes[place]? = some b ∧ Utf8.continues b = false := by
  rw [isBoundary, Bool.or_eq_true, beq_iff_eq]
  refine or_congr_right ?_
  cases hget : bytes[place]? with
  | none => simp
  | some b =>
    have hlt : place < bytes.length := (List.getElem?_eq_some_iff.mp hget).1
    simp [Nat.ne_of_lt hlt]

/-- There is no boundary inside of a character. -/
theorem not_isBoundary_inside (hpos : 0 < place) (hlt : place < c.utf8Size) (more : List UInt8) :
    ¬isBoundary (String.utf8EncodeChar c ++ more) place = true := by
  obtain ⟨first, rest, hbytes, -, hrest, -⟩ := Utf8.exists_bytes c
  rw [← String.length_utf8EncodeChar, hbytes, List.length_cons] at hlt
  obtain ⟨i, rfl⟩ := Nat.exists_eq_add_one.mpr hpos
  have hi : i < rest.length := Nat.lt_of_succ_lt_succ hlt
  have hget : (first :: rest ++ more)[i + 1]? = some rest[i] := by
    rw [List.cons_append, List.getElem?_cons_succ, List.getElem?_append_left hi,
      List.getElem?_eq_getElem hi]
  rw [hbytes, isBoundary_iff, hget, List.length_append, List.length_cons]
  rintro (hzero | hend | ⟨b, hb, hfirst⟩)
  · omega
  · omega
  · cases hb
    rw [hrest.continues _ (List.getElem_mem hi)] at hfirst
    cases hfirst

/-- Behind a character the boundaries are those of the text that follows. -/
theorem isBoundary_behind (c : Char) (s : List Char) (i : Nat) :
    isBoundary (String.utf8EncodeChar c ++ Utf8.encode s) (c.utf8Size + i) = true ↔
      isBoundary (Utf8.encode s) i = true := by
  have hpos := c.utf8Size_pos
  have hget : (String.utf8EncodeChar c ++ Utf8.encode s)[c.utf8Size + i]? =
      (Utf8.encode s)[i]? := by
    rw [← String.length_utf8EncodeChar, List.getElem?_append_right (Nat.le_add_right _ _),
      Nat.add_sub_cancel_left]
  rw [isBoundary_iff, isBoundary_iff, hget, List.length_append, String.length_utf8EncodeChar,
    Nat.add_left_cancel_iff]
  refine ⟨fun h => .inr (h.resolve_left (by omega)), fun h => .inr ?_⟩
  rcases h with rfl | h
  · -- The text that follows has no bytes, or its first one begins a character.
    cases s with
    | nil => exact .inl rfl
    | cons d s =>
      obtain ⟨first, rest, hbytes, hsize, -⟩ := Utf8.exists_bytes d
      rw [Utf8.encode_cons, hbytes]
      exact .inr ⟨first, rfl, Utf8.continues_of_size? hsize⟩
  · exact h

/-- The end of a beginning of a text is a boundary. -/
theorem isBoundary_encode_append (t rest : List Char) :
    isBoundary (Utf8.encode (t ++ rest)) (byteLength t) = true := by
  induction t with
  | nil => rfl
  | cons c t ih =>
    rw [List.cons_append, Utf8.encode_cons, byteLength_cons, isBoundary_behind]
    exact ih

/-- A boundary is the end of a beginning of the text. -/
theorem exists_of_isBoundary (h : isBoundary (Utf8.encode s) place = true) :
    ∃ t rest, s = t ++ rest ∧ byteLength t = place := by
  induction s generalizing place with
  | nil =>
    rcases isBoundary_iff.mp h with rfl | rfl | ⟨b, hb, -⟩
    · exact ⟨[], [], rfl, rfl⟩
    · exact ⟨[], [], rfl, rfl⟩
    · cases hb
  | cons c s ih =>
    rw [Utf8.encode_cons] at h
    rcases Nat.eq_zero_or_pos place with rfl | hpos
    · exact ⟨[], c :: s, rfl, rfl⟩
    rcases Nat.lt_or_ge place c.utf8Size with hlt | hge
    · exact absurd h (not_isBoundary_inside hpos hlt _)
    · obtain ⟨i, rfl⟩ := Nat.exists_eq_add_of_le hge
      obtain ⟨t, rest, rfl, rfl⟩ := ih ((isBoundary_behind c s i).mp h)
      exact ⟨c :: t, rest, rfl, rfl⟩

/-- The boundaries among the bytes of a text are its valid positions. -/
theorem isBoundary_iff_isValid {s : String} :
    isBoundary (Utf8.encode s.toList) place = true ↔ String.Pos.Raw.IsValid s ⟨place⟩ := by
  rw [String.Pos.Raw.isValid_iff_exists_append]
  constructor
  · intro h
    obtain ⟨t, rest, hs, rfl⟩ := exists_of_isBoundary h
    refine ⟨String.ofList t, String.ofList rest, ?_, ?_⟩
    · rw [← String.ofList_append, ← hs, String.ofList_toList]
    · rw [String.rawEndPos_ofList, byteLength_eq]
  · rintro ⟨s₁, s₂, rfl, hplace⟩
    obtain rfl : place = s₁.utf8ByteSize := congrArg String.Pos.Raw.byteIdx hplace
    rw [String.toList_append, ← byteLength_toList]
    exact isBoundary_encode_append _ _

/-! ## The walk back -/

/-- The walk back ends at the greatest boundary up to the place where it begins. -/
theorem lastBoundary?_eq (bytes : List UInt8) (place : Nat) :
    lastBoundary? bytes place =
      some (Nat.findGreatest (fun i => isBoundary bytes i = true) place) := by
  induction place with
  | zero => rfl
  | succ place ih =>
    rw [lastBoundary?, Nat.findGreatest_succ]
    split
    · rfl
    · exact ih

theorem greatest_of_lastBoundary? {bytes : List UInt8} {cut : Nat}
    (h : lastBoundary? bytes place = some cut) :
    cut ≤ place ∧ isBoundary bytes cut = true ∧
      ∀ i, i ≤ place → isBoundary bytes i = true → i ≤ cut := by
  rw [lastBoundary?_eq] at h
  cases h
  -- The beginning is a boundary, so that there is a greatest one.
  have hspec := Nat.findGreatest_spec (P := fun i => isBoundary bytes i = true)
    (Nat.zero_le place) rfl
  exact ⟨Nat.findGreatest_le place, hspec, fun i hle hi => Nat.le_findGreatest hle hi⟩

/-! ## The beginning that is kept -/

/-- The longest beginning of a text that has at most so many bytes: of the valid positions of the
text, none up to the limit lies behind its end. -/
structure LongestWithin (max : Nat) (s kept : String) : Prop where
  isBeginning : ∃ rest, s = kept ++ rest
  fits : kept.utf8ByteSize ≤ max
  longest : ∀ place : String.Pos.Raw, place.IsValid s → place.byteIdx ≤ max →
    place.byteIdx ≤ kept.utf8ByteSize

/-- The walk back ends where the longest beginning does. -/
theorem exists_longestWithin (max : Nat) (s : String) : ∃ kept, LongestWithin max s kept ∧
    lastBoundary? (Utf8.encode s.toList) max = some kept.utf8ByteSize := by
  obtain ⟨cut, hcut⟩ :=
    Option.isSome_iff_exists.mp (isSome_lastBoundary? (Utf8.encode s.toList) max)
  obtain ⟨hle, hboundary, hgreatest⟩ := greatest_of_lastBoundary? hcut
  obtain ⟨kept, rest, hs, hend⟩ :=
    String.Pos.Raw.isValid_iff_exists_append.mp (isBoundary_iff_isValid.mp hboundary)
  obtain rfl : cut = kept.utf8ByteSize := congrArg String.Pos.Raw.byteIdx hend
  refine ⟨kept, ⟨⟨rest, hs⟩, hle, fun place hvalid hplace => ?_⟩, hcut⟩
  exact hgreatest _ hplace (isBoundary_iff_isValid.mpr hvalid)

/-- At most three bytes before the limit are left out: the character in which it lies has at most
four bytes, and the longest beginning does not end before that character begins. -/
theorem LongestWithin.limit_le {s kept : String} (h : LongestWithin max s kept)
    (hlong : max < s.utf8ByteSize) : max ≤ kept.utf8ByteSize + 3 := by
  rw [← byteLength_toList] at hlong
  obtain ⟨t, c, rest, hs, hle, hlt⟩ := exists_exceeding hlong
  have hvalid : String.Pos.Raw.IsValid s ⟨byteLength t⟩ := by
    rw [← isBoundary_iff_isValid, hs]
    exact isBoundary_encode_append t (c :: rest)
  have hkept : byteLength t ≤ kept.utf8ByteSize := h.longest _ hvalid hle
  have hsize : c.utf8Size ≤ 4 := c.utf8Size_le_four
  omega

/-- What stands before the place where the walk back ends is kept. -/
theorem excerpt_append {t rest : List Char} (hlong : max < byteLength (t ++ rest))
    (hcut : lastBoundary? (Utf8.encode (t ++ rest)) max = some (byteLength t)) :
    excerpt max (t ++ rest) = t ++ ['…'] := by
  have htake : (Utf8.encode (t ++ rest)).take (byteLength t) = Utf8.encode t := by
    rw [Utf8.encode_append, ← length_encode, List.take_left]
  rw [excerpt, if_neg (Nat.not_le.mpr hlong)]
  simp only [hcut, Option.get_some, htake, Utf8.decodeLossy_encode]

/-- An excerpt is the text itself if it has at most so many bytes, and otherwise the longest
beginning that has, followed by an ellipsis. The walk back comes to its end there, at most three
bytes before the limit. -/
theorem excerptText_longest (max : Nat) (s : String) :
    (s.utf8ByteSize ≤ max → excerptText max s = s) ∧
    (max < s.utf8ByteSize → ∃ kept, LongestWithin max s kept ∧
      excerptText max s = kept ++ "…" ∧
      lastBoundary? (Utf8.encode s.toList) max = some kept.utf8ByteSize ∧
      max ≤ kept.utf8ByteSize + 3) := by
  constructor
  · intro hshort
    rw [excerptText, excerpt, byteLength_toList, if_pos hshort, String.ofList_toList]
  · intro hlong
    obtain ⟨kept, hkept, hcut⟩ := exists_longestWithin max s
    refine ⟨kept, hkept, ?_, hcut, hkept.limit_le hlong⟩
    obtain ⟨rest, rfl⟩ := hkept.isBeginning
    rw [← byteLength_toList, String.toList_append] at hlong
    rw [← byteLength_toList, String.toList_append] at hcut
    rw [excerptText, String.toList_append, excerpt_append hlong hcut, String.ofList_append,
      String.ofList_toList]

/-- A limit before the last byte of a character of four bytes, so that the walk goes back over the
three bytes before. -/
theorem excerptText_longest_fourBytes :
    6 < "aé😀".utf8ByteSize ∧ LongestWithin 6 "aé😀" "aé" ∧
      excerptText 6 "aé😀" = "aé" ++ "…" ∧
      lastBoundary? (Utf8.encode "aé😀".toList) 6 = some 3 ∧ 6 ≤ 3 + 3 := by
  have hlong : 6 < "aé😀".utf8ByteSize := by decide
  obtain ⟨kept, hkept, htext, hcut, hback⟩ := (excerptText_longest 6 "aé😀").2 hlong
  have hvalue : excerptText 6 "aé😀" = "aé" ++ "…" := by decide +kernel
  obtain rfl : kept = "aé" := (String.append_left_inj "…").mp (htext.symm.trans hvalue)
  exact ⟨hlong, hkept, htext, hcut, hback⟩

end RegistryDedup.Text
