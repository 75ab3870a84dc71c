import RegistryDedup.Files.Journal
import RegistryDedup.Proofs.Files.Directory
import RegistryDedup.Proofs.Json.Reading
import RegistryDedup.Proofs.Text.Split
import RegistryDedup.Proofs.Time.Reading

/-!
# Journals read back

Entries that are appended to a journal are read back as they were, in their order, whatever is in
their texts. Three things come together: each entry is a JSON text without control characters, so
that a line of the file holds all of it; the text is read as the record it was written from; and
instants are read as they were written, as long as their leap seconds end a minute, which holds for
all instants that a program can have.

- `JournalEntry.Held`: an entry with instants that a program can have.
- `JournalEntry.readsAs`: an entry is read as it was written.
- `Journal.Records`: what a journal looks like after some entries. `Journal.append_records` appends
  them one by one to a file that is empty or not there.
-/

namespace RegistryDedup

open Text

/-! ## Entries -/

namespace JournalLoser

open Json

/-- A time is read as it was written, and so is none. -/
theorem created_readsAs {created : Option Instant} (h : ∀ t, created = some t → t.EndsMinute) :
    ∃ tree, ReadsAs (.optional (created.map Instant.text)) tree ∧
      created? (some tree) = some created := by
  cases created with
  | none => exact ⟨.null, .null, rfl⟩
  | some t =>
    have htext : Tree.optionalText? (some (.string (escapedText t.text))) = some (some t.text) := by
      show (Tree.text? (.string (escapedText t.text))).map some = _
      rw [Tree.text?_string]
      rfl
    refine ⟨_, .str t.text, ?_⟩
    unfold created?
    rw [htext]
    simp only [Option.bind_eq_bind, Option.bind_some]
    rw [Instant.readLoose?_text (h t rfl)]
    rfl

/-- The members of a loser. -/
def members (l : JournalLoser) (created : Tree) : List (String × Tree) :=
  [("id", .string (escapedText l.id)), ("name", .string (escapedText l.name)),
    ("created_at", created)]

/-- A loser is read as it was written. -/
theorem readsAs {l : JournalLoser} (h : ∀ t, l.created = some t → t.EndsMinute) :
    ∃ tree, ReadsAs l.toJson tree ∧ ofTree? tree = some l := by
  obtain ⟨created, hcreated, hread⟩ := created_readsAs h
  have hobj : ReadsAs l.toJson (.ofMembers (l.members created)) :=
    .obj (.cons ⟨rfl, .str l.id⟩ (.cons ⟨rfl, .str l.name⟩ (.cons ⟨rfl, hcreated⟩ .nil)))
  have hnames : ((l.members created).map Prod.fst).Nodup := by
    show ["id", "name", "created_at"].Nodup
    decide
  refine ⟨_, hobj, ?_⟩
  unfold ofTree?
  rw [show ["id", "name", "created_at"] = (l.members created).map Prod.fst from rfl,
    Tree.members?_written hnames]
  show (do
    return ⟨← Tree.textMember? (some (.string (escapedText l.id))),
      ← Tree.textMember? (some (.string (escapedText l.name))), ← created? (some created)⟩ :
    Option JournalLoser) = some l
  rw [Tree.textMember?_string, Tree.textMember?_string, hread]
  rfl

end JournalLoser

namespace JournalEntry

open Json

/-- The members of an entry. -/
def members (e : JournalEntry) (losers dependents : List Tree) : List (String × Tree) :=
  [("run_id", .string (escapedText e.run)), ("at", .string (escapedText e.time.text)),
    ("key", .string (escapedText e.key)), ("keep_id", .string (escapedText e.keep)),
    ("losers", .array losers), ("dependents", .array dependents)]

/-- An entry with instants that a program can have. -/
structure Held (e : JournalEntry) : Prop where
  time : e.time.Held
  created : ∀ l ∈ e.losers, ∀ t, l.created = some t → t.Held

/-- An entry is read as it was written. -/
theorem readsAs {e : JournalEntry} (h : e.Held) :
    ∃ tree, ReadsAs e.toJson tree ∧ ofTree? tree = some e := by
  obtain ⟨losers, hlosers, hreadLosers⟩ := ReadsAs.exists_trees fun l hl =>
    JournalLoser.readsAs fun t ht => (h.created l hl t ht).endsMinute
  have htexts : ∀ d ∈ e.dependents, ∃ tree, ReadsAs (.str d) tree ∧ tree.text? = some d :=
    fun d _ => ⟨_, .str d, Tree.text?_string d⟩
  obtain ⟨dependents, hdependents, hreadDependents⟩ := ReadsAs.exists_trees htexts
  have hobj : ReadsAs e.toJson (.ofMembers (e.members losers dependents)) :=
    .obj (.cons ⟨rfl, .str e.run⟩ (.cons ⟨rfl, .str e.time.text⟩ (.cons ⟨rfl, .str e.key⟩
      (.cons ⟨rfl, .str e.keep⟩ (.cons ⟨rfl, .arr hlosers⟩ (.cons ⟨rfl, .arr hdependents⟩
        .nil))))))
  have hnames : ((e.members losers dependents).map Prod.fst).Nodup := by
    show ["run_id", "at", "key", "keep_id", "losers", "dependents"].Nodup
    decide
  refine ⟨_, hobj, ?_⟩
  unfold ofTree?
  rw [show ["run_id", "at", "key", "keep_id", "losers", "dependents"] =
    (e.members losers dependents).map Prod.fst from rfl, Tree.members?_written hnames]
  show (do
    return {
      run := ← Tree.textMember? (some (.string (escapedText e.run)))
      time := ← Instant.readLoose? (← Tree.textMember? (some (.string (escapedText e.time.text))))
      key := ← Tree.textMember? (some (.string (escapedText e.key)))
      keep := ← Tree.textMember? (some (.string (escapedText e.keep)))
      losers := ← losers.mapM JournalLoser.ofTree?
      dependents := ← dependents.mapM Tree.text? } : Option JournalEntry) = some e
  simp only [Tree.textMember?_string, Option.bind_eq_bind, Option.bind_some]
  rw [Instant.readLoose?_text h.time.endsMinute, hreadLosers, hreadDependents]
  rfl

theorem line_toList (e : JournalEntry) : e.line.toList = e.toJson.compactText :=
  String.toList_ofList

/-- A line is read as the entry it was written for. -/
theorem read?_line {e : JournalEntry} (h : e.Held) : read? e.line.toList = some e := by
  obtain ⟨tree, hwritten, hread⟩ := readsAs h
  unfold read?
  rw [line_toList, hwritten.ofText?]
  exact hread

/-- There is no line break in a line, nor another control character. -/
theorem visible_of_mem_line {e : JournalEntry} (h : e.Held) {c : Char} (hc : c ∈ e.line.toList) :
    0x20 ≤ c.toNat := by
  obtain ⟨tree, hwritten, -⟩ := readsAs h
  rw [line_toList] at hc
  exact hwritten.visible c hc

/-- A line begins with a brace, so that it is not taken for a blank one. -/
theorem allBlank_line (e : JournalEntry) : allBlank e.line.toList = false := by
  rw [line_toList]
  rfl

end JournalEntry

/-! ## Journals -/

namespace Journal

variable {text : String} {entries : List JournalEntry}

/-- What a journal looks like after some entries. -/
structure Records (text : String) (entries : List JournalEntry) : Prop where
  /-- There is one line for each entry, and each line is ended. -/
  lines : text.toList = (entries.map (·.line.toList)).flatMap (· ++ ['\n'])
  /-- There is no other line break, nor another control character. -/
  unbroken : ∀ e ∈ entries, ∀ c ∈ e.line.toList, 0x20 ≤ c.toNat
  /-- The entries are read back as they were, in their order. -/
  readable : readAll? text = some entries

theorem toList_append (text : String) (e : JournalEntry) :
    (append text e).toList = text.toList ++ (e.line.toList ++ ['\n']) := by
  unfold append
  rw [String.toList_append, String.toList_append, List.append_assoc]
  rfl

theorem toList_foldl_append (text : String) (entries : List JournalEntry) :
    (entries.foldl append text).toList =
      text.toList ++ (entries.map (·.line.toList)).flatMap (· ++ ['\n']) := by
  induction entries generalizing text with
  | nil => exact (List.append_nil _).symm
  | cons e entries ih =>
    rw [List.foldl_cons, ih, toList_append, List.append_assoc]
    rfl

/-- Entries that were written one after the other make up a journal. -/
theorem records_foldl_append (h : ∀ e ∈ entries, e.Held) :
    Records (entries.foldl append "") entries := by
  have htext : (entries.foldl append "").toList =
      (entries.map (·.line.toList)).flatMap (· ++ ['\n']) := by
    rw [toList_foldl_append, String.toList_empty, List.nil_append]
  have hunbroken : ∀ e ∈ entries, ∀ c ∈ e.line.toList, 0x20 ≤ c.toNat :=
    fun e he c hc => JournalEntry.visible_of_mem_line (h e he) hc
  have hbreaks : ∀ line ∈ entries.map (·.line.toList), '\n' ∉ line ∧ '\r' ∉ line := by
    intro line hline
    obtain ⟨e, he, rfl⟩ := List.mem_map.mp hline
    exact ⟨fun hc => absurd (hunbroken e he _ hc) (by decide),
      fun hc => absurd (hunbroken e he _ hc) (by decide)⟩
  refine ⟨htext, hunbroken, ?_⟩
  -- No line is blank, so that none is passed over.
  have hkept : (entries.map (·.line.toList)).filter (fun line => !allBlank line) =
      entries.map (·.line.toList) := by
    refine List.filter_eq_self.mpr fun line hline => ?_
    obtain ⟨e, -, rfl⟩ := List.mem_map.mp hline
    rw [JournalEntry.allBlank_line]
    rfl
  unfold readAll?
  rw [htext, linesOf_flatMap hbreaks, hkept]
  exact Tree.mapM_map_eq_some fun e he => JournalEntry.read?_line (h e he)

/-! ### Journals in a directory -/

variable {d d₀ : Directory} {path name : String}

/-- An entry goes to the end of its file, which stays where it is. -/
theorem append_step (hplace : d.place path = .ok (.entry name false))
    (hfind : d.find? name = some text) (e : JournalEntry) :
    ∃ d', d.append path (append "" e) = .ok d' ∧ d'.place path = .ok (.entry name false) ∧
      d'.find? name = some (append text e) := by
  refine ⟨_, Directory.append_eq_ok.mpr ⟨name, hplace, rfl⟩,
    Directory.place_mono (Directory.root_put _ _ _) hplace, ?_⟩
  rw [Directory.find?_put, if_pos rfl, hfind]
  show some (text ++ ("" ++ e.line ++ "\n")) = some (text ++ e.line ++ "\n")
  rw [String.empty_append, String.append_assoc]

/-- Entries go to the end of their file one by one. -/
theorem append_run (hplace : d.place path = .ok (.entry name false))
    (hfind : d.find? name = some text) (entries : List JournalEntry) :
    ∃ d', entries.foldlM (fun d e => d.append path (append "" e)) d = .ok d' ∧
      d'.place path = .ok (.entry name false) ∧
      d'.find? name = some (entries.foldl append text) := by
  induction entries generalizing d text with
  | nil => exact ⟨d, rfl, hplace, hfind⟩
  | cons e entries ih =>
    obtain ⟨d₁, hstep, hplace₁, hfind₁⟩ := append_step hplace hfind e
    obtain ⟨d', hrun, hend⟩ := ih hplace₁ hfind₁
    refine ⟨d', ?_, hend⟩
    rw [List.foldlM_cons, hstep]
    exact hrun

/-- A journal that can be opened, in a file that is empty or not there, takes any entries one by
one, and what is read from it afterwards are these entries. -/
theorem append_records (hopen : d.append path "" = .ok d₀)
    (hempty : d.read path = .ok "" ∨ d.read path = .error .notFound)
    (hheld : ∀ e ∈ entries, e.Held) :
    ∃ d', entries.foldlM (fun d e => d.append path (append "" e)) d₀ = .ok d' ∧
      ∃ text, d'.read path = .ok text ∧ Records text entries := by
  obtain ⟨name, hplace, rfl⟩ := Directory.append_eq_ok.mp hopen
  -- Whether the file was empty or not there, the journal starts from nothing.
  have hnothing : (d.find? name).getD "" = "" := by
    cases hfind : d.find? name with
    | none => rfl
    | some text =>
      rw [Directory.read_of_find? hplace hfind] at hempty
      obtain htext | hnone := hempty
      · exact Except.ok.inj htext
      · cases hnone
  have hfind : (d.put name ((d.find? name).getD "" ++ "")).find? name = some "" := by
    rw [Directory.find?_put, if_pos rfl, hnothing]
    rfl
  have hplace' : (d.put name ((d.find? name).getD "" ++ "")).place path =
      .ok (.entry name false) := Directory.place_mono (Directory.root_put _ _ _) hplace
  obtain ⟨d', hrun, hplace₁, hfind₁⟩ := append_run hplace' hfind entries
  exact ⟨d', hrun, _, Directory.read_of_find? hplace₁ hfind₁, records_foldl_append hheld⟩

end Journal

namespace Sample

/-- An entry whose texts have quotes, a backslash and control characters, with a leap second and a
year before the common era among its times. -/
def unusual : JournalEntry where
  run := "run \"1\""
  time := ⟨⟨2024, 3, 1, by decide⟩, 36000, 250000000, by decide, by decide⟩
  key := "KAB.\tSLEMAN"
  keep := "r\\1"
  losers := [
    ⟨"r2", "Sleman\r\n", some ⟨⟨2016, 12, 31, by decide⟩, 86399, 1500000000, by decide, by decide⟩⟩,
    ⟨"r3", "\x01", some ⟨⟨-5, 3, 1, by decide⟩, 61, 1000, by decide, by decide⟩⟩,
    ⟨"r4", "", none⟩]
  dependents := ["projects:region_id"]

theorem held_unusual : unusual.Held where
  time := .clock rfl
  created l hl t ht := by
    have hleap : Instant.read? "2016-12-31T23:59:60.5Z" =
        some ⟨⟨2016, 12, 31, by decide⟩, 86399, 1500000000, by decide, by decide⟩ := by
      decide +kernel
    have hyear : Instant.read? "-5-03-01 00:01:01.000001" =
        some ⟨⟨-5, 3, 1, by decide⟩, 61, 1000, by decide, by decide⟩ := by
      decide +kernel
    change l ∈ [_, _, _] at hl
    simp only [List.mem_cons, List.not_mem_nil, or_false] at hl
    obtain rfl | rfl | rfl := hl
    · cases ht
      exact .cell hleap
    · cases ht
      exact .cell hyear
    · cases ht

end Sample

/-- Two entries in a new file, and how their odd instants are written. -/
theorem Journal.append_records_sample :
    Sample.unusual.losers.map (·.created.map Instant.text) =
      [some "2016-12-31T23:59:60.500Z", some "-0005-03-01T00:01:01.000001Z", none] ∧
    ∃ d', [Sample.unusual, Sample.unusual].foldlM
        (fun d e => d.append "merge.jsonl" (Journal.append "" e))
        (⟨"/data", [("merge.jsonl", "")]⟩ : Directory) = .ok d' ∧
      ∃ text, d'.read "merge.jsonl" = .ok text ∧
        Journal.Records text [Sample.unusual, Sample.unusual] := by
  have hopen : (⟨"/data", []⟩ : Directory).append "merge.jsonl" "" =
      .ok ⟨"/data", [("merge.jsonl", "")]⟩ := rfl
  have hnone : (⟨"/data", []⟩ : Directory).read "merge.jsonl" = .error .notFound := rfl
  refine ⟨by decide +kernel, Journal.append_records hopen (.inr hnone) fun e he => ?_⟩
  rcases List.mem_cons.mp he with rfl | he
  · exact Sample.held_unusual
  · rw [List.mem_singleton.mp he]
    exact Sample.held_unusual

end RegistryDedup
