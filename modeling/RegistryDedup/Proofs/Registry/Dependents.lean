import RegistryDedup.Proofs.Except
import RegistryDedup.Proofs.Name.Grouping
import RegistryDedup.Proofs.Registry.Identifier

/-!
# Lists of dependents

A list of dependents is given as text: items with commas between them, each of them a table and a
column with a colon between them. Blanks may stand around tables and columns, and items of blanks
only do not count.

- `Dependent.Spelled`, `Dependent.SpelledAll`: the texts that stand for a dependent, and the items
  that stand for some dependents. They say nothing of how a text is read.
- `Dependent.read_eq_ok_iff`: one item is read as a dependent just where it stands for it. Names
  have no colons, so that there is one colon only at which an item can be taken apart.
- `Dependent.readList_exact`: the same of whole lists, of which each dependent is kept where it
  first comes up; and lists that are written are read back.
-/

namespace RegistryDedup

open Text

/-! ## Items without repetition -/

section

variable {α : Type}

/-- Items put at the end unless they are there: the first of equal ones stay. -/
theorem foldl_insert_eq_eraseDups [DecidableEq α] (xs : List α) :
    xs.foldl (fun found x => if found.contains x then found else found ++ [x]) [] =
      xs.eraseDups := by
  induction xs using List.reverseRecOn with
  | nil => rfl
  | append_singleton xs x ih =>
    rw [List.foldl_append, ih, List.foldl_cons, List.foldl_nil, eraseDups_append_singleton]
    simp only [List.contains_iff_mem, List.mem_eraseDups]

/-- Items of which none comes up twice. -/
theorem eraseDups_of_nodup [BEq α] [LawfulBEq α] {xs : List α} (h : xs.Nodup) :
    xs.eraseDups = xs := by
  induction xs with
  | nil => rfl
  | cons x xs ih =>
    rw [List.nodup_cons] at h
    have hfilter : (xs.filter fun y => !y == x) = xs := by
      refine List.filter_eq_self.mpr fun y hy => ?_
      have hne : y ≠ x := fun heq => h.1 (heq ▸ hy)
      simpa using hne
    rw [List.eraseDups_cons, hfilter, ih h.2]

end

namespace Dependent

variable {d : Dependent} {item : List Char}

/-! ## One item -/

/-- A text that stands for a dependent: the names of a table and a column with a colon between them,
each with blanks around it or not. -/
structure Spelled (d : Dependent) (item : List Char) : Prop where
  table : Identifier d.table.toList
  column : Identifier d.column.toList
  parts : ∃ left right, item = left ++ ':' :: right ∧ Padded d.table.toList left ∧
    Padded d.column.toList right

/-- How a dependent is written stands for it, with blanks around it or not. -/
theorem spelled_text (htable : Identifier d.table.toList) (hcolumn : Identifier d.column.toList)
    {before after : List Char} (hbefore : allBlank before = true) (hafter : allBlank after = true) :
    d.Spelled (before ++ d.text.toList ++ after) where
  table := htable
  column := hcolumn
  parts := by
    refine ⟨before ++ d.table.toList, d.column.toList ++ after, ?_, ?_, ?_⟩
    · simp [text]
    · exact (Padded.refl _).blank_append hbefore
    · exact (Padded.refl _).append_blank hafter

/-- Nothing is left out and nothing is added where an item is written without blanks. -/
theorem Spelled.exists_trim (h : d.Spelled item) : ∃ left right, trim item = left ++ ':' :: right ∧
    ':' ∉ left ∧ trim left = d.table.toList ∧ trim right = d.column.toList := by
  obtain ⟨left, right, rfl, ⟨b₁, b₂, h₁, h₂, rfl⟩, ⟨b₃, b₄, h₃, h₄, rfl⟩⟩ := h.parts
  have hleft : Padded d.table.toList (d.table.toList ++ b₂) := (Padded.refl _).append_blank h₂
  have hright : Padded d.column.toList (b₃ ++ d.column.toList) := (Padded.refl _).blank_append h₃
  refine ⟨d.table.toList ++ b₂, b₃ ++ d.column.toList, ?_, ?_, hleft.trim_eq h.table.flush,
    hright.trim_eq h.column.flush⟩
  · -- Between the blanks at the ends there are the two names, with whatever is between them.
    have hinner : Flush (d.table.toList ++ (b₂ ++ ':' :: b₃) ++ d.column.toList) :=
      h.table.flush.append h.table.ne_nil h.column.flush h.column.ne_nil _
    have hitem : b₁ ++ d.table.toList ++ b₂ ++ ':' :: (b₃ ++ d.column.toList ++ b₄) =
        b₁ ++ (d.table.toList ++ (b₂ ++ ':' :: b₃) ++ d.column.toList) ++ b₄ := by simp
    rw [Padded.trim_eq ⟨b₁, b₄, h₁, h₄, hitem⟩ hinner]
    simp
  · exact hleft.not_mem rfl (h.table.not_mem rfl (by decide) (by decide))

theorem Spelled.trim_ne_nil (h : d.Spelled item) : trim item ≠ [] := by
  obtain ⟨left, right, htrim, -⟩ := h.exists_trim
  rw [htrim]
  simp

theorem checked_eq_ok_iff {a : Dependent} :
    (do
      checkIdentifier a.table
      checkIdentifier a.column
      return a : Except Failure Dependent) = .ok d ↔
      a = d ∧ isIdentifier d.table = true ∧ isIdentifier d.column = true := by
  rw [bind_eq_ok_iff, ← checkIdentifier_eq_ok_iff, ← checkIdentifier_eq_ok_iff]
  constructor
  · rintro ⟨_, htable, h⟩
    obtain ⟨_, hcolumn, h⟩ := bind_eq_ok_iff.mp h
    obtain rfl := Except.ok.inj h
    exact ⟨rfl, htable, hcolumn⟩
  · rintro ⟨rfl, htable, hcolumn⟩
    exact ⟨_, htable, bind_eq_ok_iff.mpr ⟨_, hcolumn, rfl⟩⟩

/-- An item is read as a dependent just where it stands for it. -/
theorem read_eq_ok_iff : read (String.ofList (trim item)) = .ok d ↔ d.Spelled item := by
  have hread : ∀ left right, trim item = left ++ ':' :: right → ':' ∉ left →
      (read (String.ofList (trim item)) = .ok d ↔
        (⟨trimmed (String.ofList left), trimmed (String.ofList right)⟩ : Dependent) = d ∧
          isIdentifier d.table = true ∧ isIdentifier d.column = true) := by
    intro left right htrim hleft
    rw [read, cutFirst, String.toList_ofList, cutAtFirst_eq_some_iff.mpr ⟨htrim, hleft⟩]
    exact checked_eq_ok_iff
  constructor
  · intro h
    cases hcut : cutAtFirst ':' (trim item) with
    | none =>
      rw [read, cutFirst, String.toList_ofList, hcut] at h
      cases h
    | some pair =>
      obtain ⟨left, right⟩ := pair
      obtain ⟨htrim, hleft⟩ := cutAtFirst_eq_some_iff.mp hcut
      obtain ⟨rfl, htable, hcolumn⟩ := (hread left right htrim hleft).mp h
      obtain ⟨before, after, hbefore, hafter, hitem⟩ := padded_trim item
      refine ⟨isIdentifier_iff.mp htable, isIdentifier_iff.mp hcolumn, before ++ left,
        right ++ after, by rw [hitem, htrim]; simp, ?_, ?_⟩
      · simpa [trimmed] using (padded_trim left).blank_append hbefore
      · simpa [trimmed] using (padded_trim right).append_blank hafter
  · intro h
    obtain ⟨left, right, htrim, hleft, htable, hcolumn⟩ := h.exists_trim
    refine (hread left right htrim hleft).mpr ⟨?_, isIdentifier_iff.mpr h.table,
      isIdentifier_iff.mpr h.column⟩
    simp [trimmed, htable, hcolumn]

/-! ## Lists -/

/-- Items that stand for some dependents, one for each item that is not blank. -/
inductive SpelledAll : List Dependent → List (List Char) → Prop
  | nil : SpelledAll [] []
  | blank {all : List Dependent} {item : List Char} {items : List (List Char)}
      (hitem : allBlank item = true) (hitems : SpelledAll all items) :
      SpelledAll all (item :: items)
  | dependent {d : Dependent} {all : List Dependent} {item : List Char} {items : List (List Char)}
      (hitem : d.Spelled item) (hitems : SpelledAll all items) :
      SpelledAll (d :: all) (item :: items)

theorem SpelledAll.of_forall₂ {all : List Dependent} {items : List (List Char)}
    (h : List.Forall₂ Spelled all items) : SpelledAll all items := by
  induction h with
  | nil => exact .nil
  | cons hitem _ ih => exact .dependent hitem ih

/-- Items stand for some dependents just where each is blank or stands for one. -/
theorem exists_spelledAll_iff {items : List (List Char)} : (∃ all, SpelledAll all items) ↔
    ∀ item ∈ items, allBlank item = true ∨ ∃ d : Dependent, d.Spelled item := by
  constructor
  · rintro ⟨all, h⟩
    induction h with
    | nil => simp
    | blank hitem _ ih => exact List.forall_mem_cons.mpr ⟨.inl hitem, ih⟩
    | dependent hitem _ ih => exact List.forall_mem_cons.mpr ⟨.inr ⟨_, hitem⟩, ih⟩
  · intro h
    induction items with
    | nil => exact ⟨[], .nil⟩
    | cons item items ih =>
      rw [List.forall_mem_cons] at h
      obtain ⟨all, hitems⟩ := ih h.2
      obtain hblank | ⟨d, hitem⟩ := h.1
      · exact ⟨all, .blank hblank hitems⟩
      · exact ⟨d :: all, .dependent hitem hitems⟩

/-- All items but those of blanks only are read. -/
theorem mapM_read_eq_ok_iff {all : List Dependent} {items : List (List Char)} :
    (((items.map trim).filter (!·.isEmpty)).map String.ofList).mapM read = .ok all ↔
      SpelledAll all items := by
  rw [mapM_eq_ok_iff]
  induction items generalizing all with
  | nil =>
    rw [List.map_nil, List.filter_nil, List.map_nil, List.forall₂_nil_left_iff]
    constructor
    · rintro rfl
      exact .nil
    · intro h
      cases h
      rfl
  | cons item items ih =>
    rw [List.map_cons]
    by_cases hblank : allBlank item = true
    · rw [trim_eq_nil_iff.mpr hblank, List.filter_cons_of_neg (by simp), ih]
      constructor
      · exact .blank hblank
      · intro h
        cases h with
        | blank _ hitems => exact hitems
        | dependent hitem _ => exact absurd (trim_eq_nil_iff.mpr hblank) hitem.trim_ne_nil
    · have hne : trim item ≠ [] := mt trim_eq_nil_iff.mp hblank
      rw [List.filter_cons_of_pos (by simpa using hne), List.map_cons,
        List.forall₂_cons_left_iff]
      constructor
      · rintro ⟨d, rest, hitem, hitems, rfl⟩
        exact .dependent (read_eq_ok_iff.mp hitem) (ih.mp hitems)
      · intro h
        cases h with
        | blank hitem _ => exact absurd hitem hblank
        | dependent hitem hitems => exact ⟨_, _, read_eq_ok_iff.mpr hitem, ih.mpr hitems, rfl⟩

/-- A list is read just where its items stand for some dependents, and each of these is kept where
it first comes up. -/
theorem readList_eq_ok_iff {s : String} {ds : List Dependent} :
    readList s = .ok ds ↔ ∃ all, SpelledAll all (splitOn ',' s.toList) ∧ ds = all.eraseDups := by
  rw [readList, foldlM_eq_map_mapM, readItems]
  constructor
  · intro h
    cases hread : (((splitOn ',' s.toList).map trim).filter (!·.isEmpty)).map String.ofList
      |>.mapM read with
    | error f =>
      rw [hread] at h
      cases h
    | ok all =>
      rw [hread] at h
      refine ⟨all, mapM_read_eq_ok_iff.mp hread, ?_⟩
      rw [← foldl_insert_eq_eraseDups]
      exact (Except.ok.inj h).symm
  · rintro ⟨all, hall, rfl⟩
    rw [mapM_read_eq_ok_iff.mpr hall, ← foldl_insert_eq_eraseDups]
    rfl

/-- A text that stands for a dependent has no comma. -/
theorem Spelled.comma_not_mem (h : d.Spelled item) : ',' ∉ item := by
  obtain ⟨left, right, rfl, hleft, hright⟩ := h.parts
  have hleft' : ',' ∉ left := hleft.not_mem rfl (h.table.not_mem rfl (by decide) (by decide))
  have hright' : ',' ∉ right := hright.not_mem rfl (h.column.not_mem rfl (by decide) (by decide))
  simp [hleft', hright']

/-- Dependents that are written with commas between them are read back. -/
theorem readList_written {ds : List Dependent} {items : List (List Char)} (hnodup : ds.Nodup)
    (hitems : List.Forall₂ Spelled ds items) :
    readList (String.ofList (joinWith [','] items)) = .ok ds := by
  rw [readList_eq_ok_iff, String.toList_ofList]
  refine ⟨ds, ?_, (eraseDups_of_nodup hnodup).symm⟩
  by_cases hne : items = []
  · -- Nothing at all is one blank item.
    subst hne
    rw [List.forall₂_nil_right_iff.mp hitems]
    exact .blank rfl .nil
  · have hcomma : ∀ item ∈ items, ',' ∉ item := by
      clear hnodup hne
      induction hitems with
      | nil => simp
      | cons hitem _ ih => exact List.forall_mem_cons.mpr ⟨hitem.comma_not_mem, ih⟩
    rw [splitOn_joinWith hne hcomma]
    exact .of_forall₂ hitems

/-- A list is accepted just where each of its items is blank or a table and a column with a colon
between them, both of them names; it gives the dependents in the order in which they first come up,
and dependents that are written with commas between them are read back. -/
theorem readList_exact :
    (∀ name, checkIdentifier name = .ok () ↔ Identifier name.toList) ∧
    (∀ s, (∃ ds, readList s = .ok ds) ↔
      ∀ item ∈ splitOn ',' s.toList, allBlank item = true ∨ ∃ d : Dependent, d.Spelled item) ∧
    (∀ s ds, readList s = .ok ds ↔
      ∃ all, SpelledAll all (splitOn ',' s.toList) ∧ ds = all.eraseDups) ∧
    (∀ (d : Dependent) (before after : List Char), Identifier d.table.toList →
      Identifier d.column.toList → allBlank before = true → allBlank after = true →
      d.Spelled (before ++ d.text.toList ++ after)) ∧
    ∀ (ds : List Dependent) (items : List (List Char)), ds.Nodup → List.Forall₂ Spelled ds items →
      readList (String.ofList (joinWith [','] items)) = .ok ds := by
  refine ⟨fun name => ?_, fun s => ?_, fun s ds => readList_eq_ok_iff, ?_, ?_⟩
  · rw [checkIdentifier_eq_ok_iff, isIdentifier_iff]
  · rw [← exists_spelledAll_iff]
    constructor
    · rintro ⟨ds, hds⟩
      obtain ⟨all, hall, -⟩ := readList_eq_ok_iff.mp hds
      exact ⟨all, hall⟩
    · rintro ⟨all, hall⟩
      exact ⟨all.eraseDups, readList_eq_ok_iff.mpr ⟨all, hall, rfl⟩⟩
  · intro d before after htable hcolumn hbefore hafter
    exact spelled_text htable hcolumn hbefore hafter
  · intro ds items hnodup hitems
    exact readList_written hnodup hitems

/-- Two dependents with blanks around their names, one of them with a schema. -/
theorem readList_exact_blanks :
    let ds : List Dependent := [⟨"projects", "region_id"⟩, ⟨"public.holdings", "region_id"⟩]
    let items := [" projects : region_id".toList, "public.holdings:region_id\n".toList]
    ds.Nodup ∧ List.Forall₂ Spelled ds items ∧
      String.ofList (joinWith [','] items) = " projects : region_id,public.holdings:region_id\n" ∧
      (⟨"projects", "region_id"⟩ : Dependent).Spelled
        ([' '] ++ "projects:region_id".toList ++ ['\n']) ∧
      readList (String.ofList (joinWith [','] items)) = .ok ds := by
  intro ds items
  have hprojects : Identifier "projects".toList := isIdentifier_iff.mp (by decide)
  have hholdings : Identifier "public.holdings".toList := isIdentifier_iff.mp (by decide)
  have hcolumn : Identifier "region_id".toList := isIdentifier_iff.mp (by decide)
  have hnodup : ds.Nodup := by decide
  have hfirst : Spelled ⟨"projects", "region_id"⟩ " projects : region_id".toList :=
    ⟨hprojects, hcolumn, " projects ".toList, " region_id".toList, rfl,
      ⟨[' '], [' '], rfl, rfl, rfl⟩, ⟨[' '], [], rfl, rfl, rfl⟩⟩
  have hsecond : Spelled ⟨"public.holdings", "region_id"⟩ "public.holdings:region_id\n".toList :=
    ⟨hholdings, hcolumn, "public.holdings".toList, "region_id\n".toList, rfl, .refl _,
      ⟨[], ['\n'], rfl, rfl, rfl⟩⟩
  have hitems : List.Forall₂ Spelled ds items := .cons hfirst (.cons hsecond .nil)
  refine ⟨hnodup, hitems, by decide +kernel, ?_, ?_⟩
  · exact readList_exact.2.2.2.1 ⟨"projects", "region_id"⟩ [' '] ['\n'] hprojects hcolumn rfl rfl
  · exact readList_exact.2.2.2.2 ds items hnodup hitems

end Dependent

end RegistryDedup
