import RegistryDedup.Proofs.Name.Qualifiers
import RegistryDedup.Proofs.Text.Excerpt

/-!
# Qualifiers in front of names

A qualifier in front of a name does not change its key, if no qualifier is made of several words.
The qualifiers that are tried before it have at least as many bytes, so that one of them could only
be taken off in its place if it went on behind the space; those that are a beginning of it are tried
after it.

- `stripOnce?_front`: the step; the qualifier in front is the one that is taken off first.
- `stripAll_eq`: how often is tried makes no difference, if it is often enough.
- `key_front`, `key_pointed`: one qualifier in front, with a space behind it or with a point at its
  end.
- `key_fronted`: any number of them.
-/

namespace RegistryDedup

open Text

namespace Text

variable {s w v : List Char} {vs : List (List Char)}

/-- A text without blanks in front of a word makes one word with it. -/
theorem words_append_of_head (hw : Visible w) (hhead : ∀ c ∈ s.head?, isBlank c = false)
    (hs : words s = v :: vs) : words (w ++ s) = (w ++ v) :: vs := by
  induction w with
  | nil => exact hs
  | cons c w ih =>
    rw [Visible, List.forall_mem_cons] at hw
    have hrest := ih hw.2
    have hnext : ∀ d ∈ (w ++ s).head?, isBlank d = false := by
      intro d hd
      cases w with
      | nil => exact hhead d hd
      | cons e w =>
        cases hd
        exact hw.2 _ List.mem_cons_self
    rw [List.cons_append, words_cons, hw.1, if_neg Bool.false_ne_true, hrest]
    cases htext : w ++ s with
    | nil =>
      rw [htext] at hrest
      cases hrest
    | cons d t =>
      have hd : isBlank d = false := hnext d (by rw [htext]; rfl)
      show (if isBlank d = true then _ else _) = _
      rw [hd, if_neg Bool.false_ne_true]
      rfl

theorem joinWith_append_cons (between w v : List Char) (vs : List (List Char)) :
    joinWith between ((w ++ v) :: vs) = w ++ joinWith between (v :: vs) := by
  cases vs with
  | nil => rfl
  | cons u vs =>
    rw [joinWith_cons (List.cons_ne_nil u vs), joinWith_cons (List.cons_ne_nil u vs),
      List.append_assoc, List.append_assoc, List.append_assoc]

end Text

namespace Normalizer

variable {qualifiers : List String} {q p s key : List Char} {name : String}

/-! ## Plain names -/

theorem plainName_eq_joinWith (s : List Char) :
    plainName s = joinWith [' '] ((words s).map upper) := by
  rw [plainName, collapse, words_upper]

theorem plainName_ne_nil (hs : allBlank s = false) : plainName s ≠ [] := by
  intro hnil
  rw [plainName_eq_nil_iff.mp hnil] at hs
  cases hs

/-- A word in upper case, a space and a name. -/
theorem plainName_append_space (hq : Visible q) (hne : q ≠ []) (hupper : upper q = q)
    (hs : allBlank s = false) : plainName (q ++ ' ' :: s) = q ++ ' ' :: plainName s := by
  have hwords : (words s).map upper ≠ [] := by
    intro hnil
    rw [words_eq_nil_iff.mp (List.map_eq_nil_iff.mp hnil)] at hs
    cases hs
  rw [plainName_eq_joinWith, words_append_blank rfl, words_visible hq hne, List.singleton_append,
    List.map_cons, hupper, joinWith_cons hwords, ← plainName_eq_joinWith, List.append_assoc]
  rfl

/-- A word in upper case that goes on with a name. -/
theorem plainName_append (hq : Visible q) (hupper : upper q = q)
    (hhead : ∀ c ∈ s.head?, isBlank c = false) (hs : allBlank s = false) :
    plainName (q ++ s) = q ++ plainName s := by
  cases hwords : words s with
  | nil =>
    rw [words_eq_nil_iff.mp hwords] at hs
    cases hs
  | cons v vs =>
    rw [plainName_eq_joinWith, plainName_eq_joinWith, words_append_of_head hq hhead hwords, hwords,
      List.map_cons, List.map_cons, upper_append, hupper, joinWith_append_cons]

theorem trimStart_plainName (s : List Char) : trimStart (plainName s) = plainName s := by
  cases hs : plainName s with
  | nil => rfl
  | cons c rest =>
    have htidy : Tidy (c :: rest) := hs ▸ tidy_collapse (upper s)
    exact trimStart_cons (htidy.head c rfl) rest

/-! ## One qualifier in front -/

/-- A qualifier of one word has no blanks and stays as it is in upper case. -/
theorem word_of_mem (hq : q ∈ (ofList qualifiers).qualifiers) (hspace : ' ' ∉ q) :
    Visible q ∧ q ≠ [] ∧ upper q = q := by
  have hplain := plainName_of_mem hq
  refine ⟨?_, (mem_qualifiers.mp hq).1, upper_eq_self fun c hc => ?_⟩
  · have htidy : Tidy q := hplain ▸ tidy_collapse (upper q)
    intro c hc
    rw [Bool.eq_false_iff]
    intro hblank
    exact hspace (htidy.space c hc hblank ▸ hc)
  · rw [← hplain] at hc
    exact upperChar_of_mem_plainName hc

/-- No qualifier that is tried before the one in front can be taken off. -/
theorem strip?_eq_none_of_triedBefore {r : List Char} (hbefore : triedBefore r q = true)
    (hspace : ' ' ∉ r) (p : List Char) : strip? (q ++ ' ' :: p) r = none := by
  cases hstrip : strip? (q ++ ' ' :: p) r with
  | none => rfl
  | some rest =>
    exfalso
    obtain ⟨after, hkey, -⟩ := strip?_eq_some.mp hstrip
    have hq : q <+: q ++ ' ' :: p := List.prefix_append _ _
    have hr : r <+: q ++ ' ' :: p := ⟨after, hkey.symm⟩
    rcases List.prefix_or_prefix_of_prefix hr hq with hshort | hlong
    · -- A beginning of the qualifier would have to be as long as it is.
      have hle : byteLength q ≤ byteLength r := by
        rcases triedBefore_iff.mp hbefore with hlonger | ⟨hsame, -⟩
        · exact Nat.le_of_lt hlonger
        · exact Nat.le_of_eq hsame.symm
      rw [eq_of_prefix_of_byteLength_le hshort hle] at hbefore
      exact triedBefore_irrefl q hbefore
    · -- Anything longer would have the space in it.
      obtain ⟨more, rfl⟩ := hlong
      rw [List.append_assoc, List.append_cancel_left_eq] at hkey
      cases more with
      | nil =>
        rw [List.append_nil] at hbefore
        exact triedBefore_irrefl q hbefore
      | cons c more =>
        obtain ⟨rfl, -⟩ := List.cons.inj hkey
        exact hspace (List.mem_append_right q List.mem_cons_self)

/-- The qualifier in front is the one that is taken off first. -/
theorem stripOnce?_front (hwords : ∀ r ∈ (ofList qualifiers).qualifiers, ' ' ∉ r)
    (hq : q ∈ (ofList qualifiers).qualifiers) (hs : allBlank s = false) :
    (ofList qualifiers).stripOnce? (q ++ ' ' :: plainName s) = some (plainName s) := by
  have horder := triedInOrder_qualifiers qualifiers
  obtain ⟨front, back, hsplit⟩ := List.append_of_mem hq
  have hfront : front.findSome? (strip? (q ++ ' ' :: plainName s)) = none := by
    rw [List.findSome?_eq_none_iff]
    intro r hr
    have hmem : r ∈ (ofList qualifiers).qualifiers := by
      rw [hsplit]
      exact List.mem_append_left _ hr
    rw [TriedInOrder, hsplit, List.pairwise_append] at horder
    exact strip?_eq_none_of_triedBefore (horder.2.2 r hr q List.mem_cons_self) (hwords r hmem) _
  have hstrip : strip? (q ++ ' ' :: plainName s) q = some (plainName s) := by
    refine strip?_eq_some.mpr ⟨' ' :: plainName s, rfl, .inr rfl, plainName_ne_nil hs, ?_⟩
    exact trimStart_plainName s
  rw [stripOnce?, hsplit, List.findSome?_append, hfront, List.findSome?_cons, hstrip]
  rfl

/-- To try more often than a key has characters makes no difference. -/
theorem stripAll_eq {times more : Nat} (htimes : key.length ≤ times) (hmore : key.length ≤ more) :
    (ofList qualifiers).stripAll times key = (ofList qualifiers).stripAll more key := by
  induction times generalizing key more with
  | zero =>
    refine (stripAll_eq_self (fun rest hrest => ?_) more).symm
    have hlt : rest.length < key.length := hrest.length_lt
    omega
  | succ times ih =>
    cases hstrip : (ofList qualifiers).stripOnce? key with
    | none => rw [stripAll_eq_self (stripOnce?_eq_none_iff.mp hstrip),
        stripAll_eq_self (stripOnce?_eq_none_iff.mp hstrip)]
    | some rest =>
      have hlt := (takesOff_of_stripOnce? hstrip).length_lt
      cases more with
      | zero => omega
      | succ more =>
        rw [stripAll, stripAll, hstrip]
        exact ih (by omega) (by omega)

/-- A name of which a qualifier is taken off first has the key of what is left. -/
theorem key_of_stripOnce? {other : String}
    (h : (ofList qualifiers).stripOnce? (plainName other.toList) = some (plainName name.toList)) :
    (ofList qualifiers).key other = (ofList qualifiers).key name := by
  have hlt := (takesOff_of_stripOnce? h).length_lt
  rw [← String.toList_inj, toList_key, toList_key, keyChars, keyChars]
  cases hlength : (plainName other.toList).length with
  | zero => omega
  | succ times =>
    rw [stripAll, h]
    exact stripAll_eq (by omega) (Nat.le_refl _)

/-- A qualifier in front of a name, with a space behind it, does not change its key. -/
theorem key_front (hwords : ∀ r ∈ (ofList qualifiers).qualifiers, ' ' ∉ r)
    (hq : q ∈ (ofList qualifiers).qualifiers) (hname : isBlankText name = false) :
    (ofList qualifiers).key (String.ofList q ++ " " ++ name) = (ofList qualifiers).key name := by
  obtain ⟨hvisible, hne, hupper⟩ := word_of_mem hq (hwords q hq)
  have htext : (String.ofList q ++ " " ++ name).toList = q ++ ' ' :: name.toList := by
    rw [String.toList_append, String.toList_append, String.toList_ofList, List.append_assoc]
    rfl
  refine key_of_stripOnce? ?_
  rw [htext, plainName_append_space hvisible hne hupper hname]
  exact stripOnce?_front hwords hq hname

/-! ## The default qualifiers -/

theorem standard_qualifiers :
    standard.qualifiers = ["KABUPATEN", "KAB.", "KAB"].map String.toList := by
  decide +kernel

theorem standard_words : ∀ q ∈ standard.qualifiers, ' ' ∉ q := by
  rw [standard_qualifiers]
  decide

/-- The default qualifier with a point at its end needs no space behind it. -/
theorem key_pointed (hname : isBlankText name = false) :
    standard.key ("KAB." ++ name) = standard.key name := by
  have hpoint : "KAB.".toList ∈ standard.qualifiers := by
    rw [standard_qualifiers]
    decide
  obtain ⟨hvisible, hne, hupper⟩ := word_of_mem hpoint (standard_words _ hpoint)
  cases htext : name.toList with
  | nil =>
    rw [isBlankText, htext] at hname
    cases hname
  | cons c rest =>
    by_cases hc : isBlank c = true
    · -- There is a blank behind the qualifier, if not a space.
      refine Eq.trans ?_ (key_front standard_words hpoint hname)
      refine key_congr standard (congrArg (List.map upper) ?_)
      rw [String.toList_append, String.toList_append, String.toList_append, htext,
        String.toList_ofList, List.append_assoc, words_append_blank hc]
      show _ = words ("KAB.".toList ++ ' ' :: c :: rest)
      rw [words_append_blank rfl, words_cons_blank hc]
      rfl
    · -- The qualifier and the first word of the name are one word.
      have hhead : ∀ d ∈ name.toList.head?, isBlank d = false := by
        rw [htext]
        intro d hd
        cases hd
        exact eq_false_of_ne_true hc
      have hstrip : strip? ("KAB.".toList ++ plainName name.toList) "KAB.".toList =
          some (plainName name.toList) :=
        strip?_eq_some.mpr ⟨plainName name.toList, rfl, .inl rfl, plainName_ne_nil hname,
          trimStart_plainName _⟩
      have hfirst : strip? ("KAB.".toList ++ plainName name.toList) "KABUPATEN".toList = none := rfl
      refine key_of_stripOnce? ?_
      rw [String.toList_append, plainName_append hvisible hupper hhead hname]
      show standard.stripOnce? _ = _
      rw [stripOnce?, standard_qualifiers, List.map_cons, List.findSome?_cons, hfirst,
        List.map_cons, List.findSome?_cons, hstrip]

/-! ## Any number of qualifiers -/

/-- A name with some texts in front of it. -/
def fronted (fronts : List String) (name : String) : String :=
  fronts.foldr (· ++ ·) name

theorem isBlankText_append (front : String) (hname : isBlankText name = false) :
    isBlankText (front ++ name) = false := by
  rw [isBlankText, String.toList_append, allBlank, List.all_append]
  rw [isBlankText, allBlank] at hname
  rw [hname, Bool.and_false]

theorem isBlankText_fronted (fronts : List String) (hname : isBlankText name = false) :
    isBlankText (fronted fronts name) = false := by
  induction fronts with
  | nil => exact hname
  | cons front fronts ih => exact isBlankText_append front ih

/-- Texts that do not change a key one by one do not change it together. -/
theorem key_fronted_of_each {n : Normalizer} {fronts : List String}
    (h : ∀ front ∈ fronts, ∀ name, isBlankText name = false → n.key (front ++ name) = n.key name)
    (hname : isBlankText name = false) : n.key (fronted fronts name) = n.key name := by
  induction fronts with
  | nil => rfl
  | cons front fronts ih =>
    rw [List.forall_mem_cons] at h
    exact (h.1 _ (isBlankText_fronted fronts hname)).trans (ih h.2)

/-- Where no qualifier has a space in it, a qualifier in front of a name with a space behind it does
not change the key, and nor do any number of them, in whatever order the qualifiers were given. With
the default qualifiers the one that ends with a point needs no space behind it. -/
theorem key_fronted (qualifiers : List String)
    (hwords : ∀ q ∈ (ofList qualifiers).qualifiers, ' ' ∉ q) :
    let n := ofList qualifiers
    (∀ q ∈ n.qualifiers, ∀ name, isBlankText name = false →
        n.key (String.ofList q ++ " " ++ name) = n.key name) ∧
      (∀ other, other.Perm qualifiers →
        ∀ stack : List (List Char), (∀ q ∈ stack, q ∈ n.qualifiers) →
        ∀ name, isBlankText name = false →
          (ofList other).key (fronted (stack.map fun q => String.ofList q ++ " ") name) =
            n.key name) ∧
      (∀ name, isBlankText name = false → standard.key ("KAB." ++ name) = standard.key name) ∧
      ∀ other, other.Perm defaultQualifiers → ∀ fronts : List String,
        (∀ front ∈ fronts, front = "KAB." ∨
          ∃ q ∈ standard.qualifiers, front = String.ofList q ++ " ") →
        ∀ name, isBlankText name = false →
          (ofList other).key (fronted fronts name) = standard.key name := by
  refine ⟨fun q hq name => key_front hwords hq, ?stack, fun name => key_pointed, ?standard⟩
  case stack =>
    intro other hperm stack hstack name hname
    rw [ofList_perm hperm]
    refine key_fronted_of_each ?_ hname
    intro front hfront name hname
    obtain ⟨q, hq, rfl⟩ := List.mem_map.mp hfront
    exact key_front hwords (hstack q hq) hname
  case standard =>
    intro other hperm fronts hfronts name hname
    rw [ofList_perm hperm]
    refine key_fronted_of_each ?_ hname
    intro front hfront name hname
    obtain rfl | ⟨q, hq, rfl⟩ := hfronts front hfront
    · exact key_pointed hname
    · exact key_front standard_words hq hname

/-- One of these qualifiers is a beginning of all others, and one goes on behind the point of
another. -/
theorem key_fronted_sample :
    (∀ q ∈ (ofList ["kab", "KABU", "kab.", "Kab.x"]).qualifiers, ' ' ∉ q) ∧
      (ofList ["Kab.x", "kab.", "kab", "KABU"]).key "KAB.X KAB KAB. KABU KAB  bogor" =
        (ofList ["kab", "KABU", "kab.", "Kab.x"]).key " bogor" ∧
      standard.key "KAB.KABUPATEN KAB.bogor" = standard.key "bogor" := by
  have hwords : ∀ q ∈ (ofList ["kab", "KABU", "kab.", "Kab.x"]).qualifiers, ' ' ∉ q := by
    decide +kernel
  obtain ⟨-, hstack, -, hstandard⟩ := key_fronted _ hwords
  refine ⟨hwords, ?_, ?_⟩
  · refine hstack _ ?_ (["KAB.X", "KAB", "KAB.", "KABU", "KAB"].map String.toList) ?_ " bogor" rfl
    · decide
    · decide +kernel
  · exact hstandard defaultQualifiers (List.Perm.refl _) ["KAB.", "KABUPATEN ", "KAB."]
      (by decide +kernel) "bogor" rfl

end Normalizer

end RegistryDedup
