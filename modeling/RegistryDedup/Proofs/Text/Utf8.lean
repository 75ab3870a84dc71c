import Mathlib.Data.List.TakeWhile
import RegistryDedup.Text.Utf8

/-!
# The bytes of a text

The bytes of a text are that text again. A character is found whatever bytes follow it, since its
first byte says how many belong to it.

- `Completes`: bytes that go on with a character after its first byte.
- `continues_of_size?`, `Completes.continues`: a byte tells whether a character begins with it.
- `exists_bytes`: the bytes of a character, as the reader of bytes takes them.
- `units_encode`, `decodeLossy_encode`: the bytes of a text, read again.
-/

namespace RegistryDedup.Text.Utf8

variable {first : UInt8} {rest more : List UInt8}

theorem toNat_ofNat_of_lt {n : Nat} (h : n < 256) : (UInt8.ofNat n).toNat = n := by
  rw [UInt8.toNat_ofNat', Nat.mod_eq_of_lt h]

/-- Bytes that go on with a character after its first byte. -/
def Completes (first : UInt8) : List UInt8 → Prop
  | [] => True
  | b :: rest => mayFollow first b = true ∧ ∀ c ∈ rest, continues c = true

theorem continues_of_mayFollow {b : UInt8} (h : mayFollow first b = true) : continues b = true :=
  ((Bool.and_eq_true _ _).mp h).1

/-- All bytes after the first one go on with the character. -/
theorem Completes.continues (h : Completes first rest) : ∀ b ∈ rest, continues b = true := by
  cases rest with
  | nil => exact List.forall_mem_nil _
  | cons b rest => exact List.forall_mem_cons.mpr ⟨continues_of_mayFollow h.1, h.2⟩

theorem length_le_followers (h : Completes first rest) (more : List UInt8) :
    rest.length ≤ followers first (rest ++ more) := by
  cases rest with
  | nil => exact Nat.zero_le _
  | cons b rest =>
    rw [List.cons_append, followers, if_pos h.1, List.takeWhile_append_of_pos h.2,
      List.length_append, List.length_cons]
    omega

/-- A character is found whatever follows its bytes. -/
theorem next_append (hsize : size? first = some (rest.length + 1)) (h : Completes first rest)
    (more : List UInt8) :
    next first (rest ++ more) = (.char (Char.ofNat (codeOf first rest)), rest.length) := by
  have hfound : min (followers first (rest ++ more)) rest.length = rest.length :=
    Nat.min_eq_right (length_le_followers h more)
  rw [next, hsize]
  dsimp only
  rw [Nat.add_sub_cancel, hfound, if_pos rfl, List.take_left]

theorem continues_iff {b : UInt8} : continues b = true ↔ 128 ≤ b.toNat ∧ b.toNat < 192 := by
  rw [continues, Bool.and_eq_true, decide_eq_true_iff, decide_eq_true_iff]
  exact Iff.rfl

theorem size?_eq (first : UInt8) : size? first =
    if first.toNat < 128 then some 1
    else if first.toNat < 194 then none
    else if first.toNat < 224 then some 2
    else if first.toNat < 240 then some 3
    else if first.toNat < 245 then some 4
    else none :=
  rfl

/-- The first byte of a character does not go on with one. -/
theorem continues_of_size? {n : Nat} (h : size? first = some n) : continues first = false := by
  rw [Bool.eq_false_iff, ne_eq, continues_iff]
  intro hrange
  rw [size?_eq, if_neg (by omega), if_pos (by omega)] at h
  cases h

/-- After four first bytes not every byte may follow that goes on with a character. -/
theorem mayFollow_of {b : UInt8} (hb : 128 ≤ b.toNat ∧ b.toNat < 192)
    (hE0 : first.toNat = 224 → 160 ≤ b.toNat) (hED : first.toNat = 237 → b.toNat < 160)
    (hF0 : first.toNat = 240 → 144 ≤ b.toNat) (hF4 : first.toNat = 244 → b.toNat < 144) :
    mayFollow first b = true := by
  rw [mayFollow, Bool.and_eq_true]
  refine ⟨continues_iff.mpr hb, ?_⟩
  split
  · next h => exact decide_eq_true (hE0 (congrArg UInt8.toNat (eq_of_beq h)))
  split
  · next h => exact decide_eq_true (hED (congrArg UInt8.toNat (eq_of_beq h)))
  split
  · next h => exact decide_eq_true (hF0 (congrArg UInt8.toNat (eq_of_beq h)))
  split
  · next h => exact decide_eq_true (hF4 (congrArg UInt8.toNat (eq_of_beq h)))
  · rfl

theorem continues_low (n : Nat) : continues (UInt8.ofNat (n % 64 + 128)) = true := by
  rw [continues_iff, toNat_ofNat_of_lt (by omega)]
  omega

/-- The bytes of a character: the first one tells how many there are, and the number of the
character is in them. -/
theorem exists_bytes (c : Char) : ∃ first rest, String.utf8EncodeChar c = first :: rest ∧
    size? first = some (rest.length + 1) ∧ Completes first rest ∧ codeOf first rest = c.toNat := by
  have hvalid : c.toNat < 0xD800 ∨ (0xDFFF < c.toNat ∧ c.toNat < 0x110000) := c.valid
  have hcode : c.val.toNat = c.toNat := rfl
  have hlow : ∀ m : Nat, (UInt8.ofNat (m % 64 + 128)).toNat = m % 64 + 128 := fun m =>
    toNat_ofNat_of_lt (by omega)
  unfold String.utf8EncodeChar
  rw [hcode]
  generalize c.toNat = n at hvalid
  dsimp only
  -- One, two, three or four bytes, by the size of the number.
  split
  · next h =>
    refine ⟨_, _, rfl, ?_, trivial, toNat_ofNat_of_lt (by omega)⟩
    rw [size?_eq, toNat_ofNat_of_lt (by omega), if_pos (by omega)]
    rfl
  split
  · next h h' =>
    have hfirst : (UInt8.ofNat (n / 64 % 32 + 192)).toNat = n / 64 + 192 := by
      rw [toNat_ofNat_of_lt (by omega)]
      omega
    refine ⟨_, _, rfl, ?_, ⟨?_, by simp⟩, ?_⟩
    · rw [size?_eq, hfirst, if_neg (by omega), if_neg (by omega), if_pos (by omega)]
      rfl
    · apply mayFollow_of <;> rw [hlow] <;> omega
    · show 64 * ((UInt8.ofNat _).toNat - 192) + ((UInt8.ofNat _).toNat - 128) = n
      rw [hfirst, hlow]
      omega
  split
  · next h h' h'' =>
    have hfirst : (UInt8.ofNat (n / 4096 % 16 + 224)).toNat = n / 4096 + 224 := by
      rw [toNat_ofNat_of_lt (by omega)]
      omega
    refine ⟨_, _, rfl, ?_, ⟨?_, List.forall_mem_singleton.mpr (continues_low _)⟩, ?_⟩
    · rw [size?_eq, hfirst, if_neg (by omega), if_neg (by omega), if_neg (by omega),
        if_pos (by omega)]
      rfl
    · -- A number of this size is not too small for three bytes and no surrogate.
      apply mayFollow_of <;> rw [hlow] <;> omega
    · show 64 * (64 * ((UInt8.ofNat _).toNat - 224) + ((UInt8.ofNat _).toNat - 128)) +
        ((UInt8.ofNat _).toNat - 128) = n
      rw [hfirst, hlow, hlow]
      omega
  · next h h' h'' =>
    have hfirst : (UInt8.ofNat (n / 262144 % 8 + 240)).toNat = n / 262144 + 240 := by
      rw [toNat_ofNat_of_lt (by omega)]
      omega
    have hrest : ∀ b ∈ [UInt8.ofNat (n / 64 % 64 + 128), UInt8.ofNat (n % 64 + 128)],
        continues b = true := by
      rw [List.forall_mem_cons, List.forall_mem_singleton]
      exact ⟨continues_low _, continues_low _⟩
    refine ⟨_, _, rfl, ?_, ⟨?_, hrest⟩, ?_⟩
    · rw [size?_eq, hfirst, if_neg (by omega), if_neg (by omega), if_neg (by omega),
        if_neg (by omega), if_pos (by omega)]
      rfl
    · apply mayFollow_of <;> rw [hlow] <;> omega
    · show 64 * (64 * (64 * ((UInt8.ofNat _).toNat - 240) + ((UInt8.ofNat _).toNat - 128)) +
        ((UInt8.ofNat _).toNat - 128)) + ((UInt8.ofNat _).toNat - 128) = n
      rw [hfirst, hlow, hlow, hlow]
      omega

/-- The bytes of a character in front of others are that character and what the others are. -/
theorem units_append (c : Char) (more : List UInt8) :
    units (String.utf8EncodeChar c ++ more) = .char c :: units more := by
  obtain ⟨first, rest, hbytes, hsize, hrest, hcode⟩ := exists_bytes c
  rw [hbytes, List.cons_append, units, next_append hsize hrest, hcode, Char.ofNat_toNat]
  show Unit.char c :: units ((rest ++ more).drop rest.length) = _
  rw [List.drop_left]

theorem encode_cons (c : Char) (s : List Char) :
    encode (c :: s) = String.utf8EncodeChar c ++ encode s :=
  List.flatMap_cons

theorem encode_append (s t : List Char) : encode (s ++ t) = encode s ++ encode t :=
  List.flatMap_append

theorem units_encode (s : List Char) : units (encode s) = s.map .char := by
  induction s with
  | nil => rw [encode, List.flatMap_nil, units, List.map_nil]
  | cons c s ih => rw [encode_cons, units_append, List.map_cons, ih]

/-- The bytes of a text are that text again. -/
@[simp] theorem decodeLossy_encode (s : List Char) : decodeLossy (encode s) = s := by
  rw [decodeLossy, units_encode, List.map_map]
  exact List.map_id s

end RegistryDedup.Text.Utf8
