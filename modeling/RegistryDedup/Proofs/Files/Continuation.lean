import RegistryDedup.Proofs.Files.Journal
import RegistryDedup.Proofs.Json.Extension

/-!
# Journals that are continued

A journal that is there is continued at its end, whatever it ends with. Where the last line was not
ended, the first new entry becomes a part of it. Spaces in front of an entry make no difference.
With anything else in front of it the line is no JSON text, and then the journal cannot be read, neither
the new entries nor those that were there.

- `Journal.readAll?_foldl_append`: what is read after some entries were appended to a text.
- `Journal.append_unended`: the same for a journal in a directory.
-/

namespace RegistryDedup

open Text

/-! ## Entries behind other text -/

namespace JournalEntry

variable {e : JournalEntry} {tail : List Char}

theorem isNumber_of_ofTree? {tree : Tree} (h : ofTree? tree = some e) : tree.isNumber = false := by
  cases tree with
  | number n => cases h
  | _ => rfl

theorem ofText?_line (h : e.Held) :
    ∃ tree, Tree.ofText? e.line.toList = some tree ∧ ofTree? tree = some e := by
  obtain ⟨tree, hwritten, hread⟩ := readsAs h
  rw [line_toList]
  exact ⟨tree, hwritten.ofText?, hread⟩

/-- Spaces in front of an entry make no difference. -/
theorem read?_spaces (h : e.Held) (htail : tail.all Tree.isSpace = true) :
    read? (tail ++ e.line.toList) = some e := by
  obtain ⟨tree, htext, hread⟩ := ofText?_line h
  unfold read?
  rw [Tree.ofText?_append_of_all htail htext (isNumber_of_ofTree? hread)]
  exact hread

/-- Blanks in front of an entry that are no spaces make it unreadable. -/
theorem read?_blanks (hblank : allBlank tail = true) (htail : tail.all Tree.isSpace = false)
    (line : List Char) : read? (tail ++ line) = none := by
  have hne : Tree.skipSpace tail ≠ [] := by
    intro hnil
    rw [← List.isEmpty_iff, Tree.isEmpty_skipSpace, htail] at hnil
    cases hnil
  obtain ⟨c, rest, hskip⟩ := List.exists_cons_of_ne_nil hne
  have hc : c ∈ tail := by
    have hsuffix : Tree.skipSpace tail <:+ tail := List.dropWhile_suffix _
    exact hsuffix.subset (hskip ▸ List.mem_cons_self)
  unfold read?
  rw [Tree.ofText?_eq_none_of_blank (Tree.skipSpace_append_cons hskip line)
    (List.all_eq_true.mp hblank c hc)]
  rfl

/-- Two entries on one line are unreadable. -/
theorem read?_entry (htail : (read? tail).isSome) (e : JournalEntry) :
    read? (tail ++ e.line.toList) = none := by
  obtain ⟨first, hfirst⟩ := Option.isSome_iff_exists.mp htail
  obtain ⟨tree, htext, hread⟩ := Option.bind_eq_some_iff.mp hfirst
  have hbrace : e.line.toList.all Tree.isSpace = false := by
    rw [line_toList]
    rfl
  unfold read?
  rw [Tree.ofText?_append_eq_none htext (isNumber_of_ofTree? hread) hbrace]
  rfl

end JournalEntry

/-! ## Journals behind other text -/

namespace Journal

variable {text : String} {old new : List JournalEntry} {lines lines' : List (List Char)}

/-- What some lines hold, apart from the blank ones. -/
def readLines? (lines : List (List Char)) : Option (List JournalEntry) :=
  (lines.filter fun line => !allBlank line).mapM JournalEntry.read?

theorem readLines?_append (lines lines' : List (List Char)) : readLines? (lines ++ lines') = (do
    return (← readLines? lines) ++ (← readLines? lines')) := by
  unfold readLines?
  rw [List.filter_append, List.mapM_append]

theorem readLines?_append_eq_some {entries : List JournalEntry} :
    readLines? (lines ++ lines') = some entries ↔
      ∃ first, readLines? lines = some first ∧
        (readLines? lines').map (first ++ ·) = some entries := by
  rw [readLines?_append]
  cases readLines? lines with
  | none => simp
  | some first => cases readLines? lines' <;> simp

theorem readLines?_singleton {line : List Char} (h : allBlank line = false) :
    readLines? [line] = (JournalEntry.read? line).map fun e => [e] := by
  unfold readLines?
  rw [List.filter_cons_of_pos (by rw [h]; rfl), List.filter_nil, List.mapM_cons, List.mapM_nil]
  cases JournalEntry.read? line <;> rfl

theorem readLines?_blank {line : List Char} (h : allBlank line = true) :
    readLines? [line] = some [] := by
  unfold readLines?
  rw [List.filter_cons_of_neg (by rw [h]; exact Bool.false_ne_true)]
  rfl

/-- Lines of which some hold no entry. -/
theorem readLines?_eq_none {line : List Char} (h : allBlank line = false)
    (hread : JournalEntry.read? line = none) (lines lines' : List (List Char)) :
    readLines? (lines ++ line :: lines') = none := by
  rw [readLines?_append, ← List.singleton_append, readLines?_append, readLines?_singleton h, hread]
  cases readLines? lines <;> rfl

/-- Entries that were written are on lines of their own. -/
theorem readLines?_written (h : ∀ e ∈ new, e.Held) :
    readLines? (linesOf ((new.map (·.line.toList)).flatMap (· ++ ['\n']))) = some new := by
  have hrecords := records_foldl_append h
  rw [← hrecords.lines]
  exact hrecords.readable

/-- The line that the first new entry is on. -/
theorem linesOf_line {e : JournalEntry} (h : e.Held) {tail : List Char} (htail : '\n' ∉ tail)
    (rest : List Char) : linesOf (tail ++ (e.line.toList ++ '\n' :: rest)) =
      (tail ++ e.line.toList) :: linesOf rest := by
  have hbreak : ∀ c, c.toNat < 0x20 → c ∉ e.line.toList := by
    intro c hc hmem
    exact absurd (JournalEntry.visible_of_mem_line h hmem) (Nat.not_le_of_lt hc)
  rw [← List.append_assoc]
  refine linesOf_cons ?_ ?_ rest
  · rw [List.mem_append, not_or]
    exact ⟨htail, hbreak '\n' (by decide)⟩
  · have hne : e.line.toList ≠ [] := by
      rw [JournalEntry.line_toList]
      exact List.cons_ne_nil _ _
    rw [List.getLast?_append_of_ne_nil _ hne]
    exact fun hlast => hbreak '\r' (by decide) (List.mem_of_getLast? hlast)

theorem allBlank_of_all_isSpace {s : List Char} (h : s.all Tree.isSpace = true) :
    allBlank s = true := by
  refine List.all_eq_true.mpr fun c hc => ?_
  have hspace := List.all_eq_true.mp h c hc
  simp only [Tree.isSpace, Bool.or_eq_true, beq_iff_eq] at hspace
  obtain ((rfl | rfl) | rfl) | rfl := hspace <;> rfl

/-- What is read after some entries were appended to a text: all of it where the text ends with a
line feed, or with spaces after its last line feed, and nothing at all otherwise. -/
theorem readAll?_foldl_append (hold : readAll? text = some old) (hnew : ∀ e ∈ new, e.Held) :
    readAll? (new.foldl append text) =
      if new = [] ∨ (unended text.toList).all Tree.isSpace then some (old ++ new) else none := by
  cases new with
  | nil =>
    rw [if_pos (.inl rfl), List.append_nil]
    exact hold
  | cons e new =>
    rw [List.forall_mem_cons] at hnew
    obtain ⟨lines, hlines⟩ := exists_linesOf_append text.toList
    have hnl := not_mem_unended text.toList
    generalize unended text.toList = tail at hlines hnl
    have hbefore : readLines? (lines ++ linesOf tail) = some old := by
      have hall := hlines []
      rw [List.append_nil, List.append_nil] at hall
      rw [← hall]
      exact hold
    have hafter : readAll? ((e :: new).foldl append text) = readLines? (lines ++
        (tail ++ e.line.toList) :: linesOf ((new.map (·.line.toList)).flatMap (· ++ ['\n']))) := by
      show readLines? (linesOf ((e :: new).foldl append text).toList) = _
      rw [toList_foldl_append, hlines, List.map_cons, List.flatMap_cons, List.append_assoc,
        List.singleton_append, linesOf_line hnew.1 hnl]
    have hvisible : allBlank (tail ++ e.line.toList) = false := by
      unfold allBlank
      rw [List.all_append, Bool.and_eq_false_iff]
      exact .inr (JournalEntry.allBlank_line e)
    rw [hafter]
    by_cases hspaces : tail.all Tree.isSpace = true
    · -- Nothing was read from the last line before.
      rw [if_pos (.inr hspaces)]
      have hlast : readLines? (linesOf tail) = some [] := by
        rw [linesOf_of_not_mem hnl]
        split
        · rfl
        · exact readLines?_blank (allBlank_of_all_isSpace hspaces)
      obtain ⟨first, hfirst, hold⟩ := readLines?_append_eq_some.mp hbefore
      rw [hlast, Option.map_some, Option.some.injEq, List.append_nil] at hold
      rw [readLines?_append_eq_some]
      refine ⟨old, hold ▸ hfirst, ?_⟩
      rw [← List.singleton_append, readLines?_append, readLines?_singleton hvisible,
        JournalEntry.read?_spaces hnew.1 hspaces, readLines?_written hnew.2]
      rfl
    · rw [if_neg (by simpa using hspaces)]
      refine readLines?_eq_none hvisible ?_ _ _
      by_cases hblank : allBlank tail = true
      · exact JournalEntry.read?_blanks hblank (by simpa using hspaces) _
      · -- The last line held an entry.
        have hne : ¬ tail.isEmpty = true := by
          intro hempty
          rw [List.isEmpty_iff.mp hempty] at hblank
          exact hblank rfl
        obtain ⟨first, hfirst, hold⟩ := readLines?_append_eq_some.mp hbefore
        rw [linesOf_of_not_mem hnl, if_neg hne,
          readLines?_singleton (Bool.eq_false_iff.mpr hblank)] at hold
        cases hread : JournalEntry.read? tail with
        | none =>
          rw [hread] at hold
          cases hold
        | some last => exact JournalEntry.read?_entry (by rw [hread]; rfl) e

/-! ### Journals in a directory -/

variable {d : Directory} {path : String}

/-- A journal that is there can be opened, and takes any entries one by one. If all of it could be
read before, all of it can be read afterwards just where it was ended, apart from spaces; otherwise
nothing can be read any more. -/
theorem append_unended (hread : d.read path = .ok text) (hold : readAll? text = some old)
    (hnew : ∀ e ∈ new, e.Held) :
    ∃ d₀, d.append path "" = .ok d₀ ∧
    ∃ d', new.foldlM (fun d e => d.append path (append "" e)) d₀ = .ok d' ∧
    ∃ text', d'.read path = .ok text' ∧
      readAll? text' =
        if new = [] ∨ (unended text.toList).all Tree.isSpace then some (old ++ new) else none := by
  obtain ⟨name, hplace, hfind⟩ := Directory.read_eq_ok.mp hread
  have hopen : d.append path "" = .ok (d.put name text) := by
    refine Directory.append_eq_ok.mpr ⟨name, hplace, ?_⟩
    rw [hfind, Option.getD_some, String.append_empty]
  have hplace' : (d.put name text).place path = .ok (.entry name false) :=
    Directory.place_mono (Directory.root_put _ _ _) hplace
  have hfind' : (d.put name text).find? name = some text := by
    rw [Directory.find?_put, if_pos rfl]
  obtain ⟨d', hrun, hplace'', hfind''⟩ := append_run hplace' hfind' new
  exact ⟨_, hopen, d', hrun, _, Directory.read_of_find? hplace'' hfind'',
    readAll?_foldl_append hold hnew⟩

end Journal

namespace Sample

/-- The text of an entry, as it is left by a run that was stopped before the line was ended. -/
def stopped : String :=
  "\x7b\"run_id\":\"run-1\",\"at\":\"2024-01-01T00:00:00Z\",\"key\":\"S\",\"keep_id\":\"r1\"," ++
    "\"losers\":[\x7b\"id\":\"r2\",\"name\":\"KAB. S\",\"created_at\":null\x7d]," ++
    "\"dependents\":[\"p:r\"]\x7d"

/-- The entry in that text. -/
def begun : JournalEntry where
  run := "run-1"
  time := (Instant.ofFields? ⟨2024, 1, 1, by decide⟩ 0 0).get rfl
  key := "S"
  keep := "r1"
  losers := [⟨"r2", "KAB. S", none⟩]
  dependents := ["p:r"]

end Sample

/-- An entry goes on the line that was not ended, and neither it nor the one before can be read. -/
theorem Journal.append_unended_stopped :
    Journal.readAll? Sample.stopped = some [Sample.begun] ∧
    ∃ d₀, (⟨"/data", [("merge.jsonl", Sample.stopped)]⟩ : Directory).append "merge.jsonl" "" =
      .ok d₀ ∧
    ∃ d', [Sample.unusual].foldlM (fun d e => d.append "merge.jsonl" (Journal.append "" e)) d₀ =
      .ok d' ∧
    ∃ text', d'.read "merge.jsonl" = .ok text' ∧ Journal.readAll? text' = none := by
  have hread : (⟨"/data", [("merge.jsonl", Sample.stopped)]⟩ : Directory).read "merge.jsonl" =
      .ok Sample.stopped := rfl
  have hold : Journal.readAll? Sample.stopped = some [Sample.begun] := by decide +kernel
  have hheld : ∀ e ∈ [Sample.unusual], e.Held := by
    intro e he
    rw [List.mem_singleton.mp he]
    exact Sample.held_unusual
  obtain ⟨d₀, hopen, d', hrun, text', htext, hall⟩ := Journal.append_unended hread hold hheld
  have hend : ¬ ([Sample.unusual] = [] ∨
      (unended Sample.stopped.toList).all Tree.isSpace = true) := by
    decide +kernel
  rw [if_neg hend] at hall
  exact ⟨hold, d₀, hopen, d', hrun, text', htext, hall⟩

end RegistryDedup
