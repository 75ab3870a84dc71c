import Mathlib.Data.List.Induction
import RegistryDedup.Proofs.Merge.Transient
import RegistryDedup.Proofs.Name.Grouping

/-!
# Runs that give up

A run gives up after a number of groups in a row that failed transiently. It counts them as it goes,
and a group that did not fail so starts the count anew. The count is thus the length of the row that
the groups handled so far end in (`le_streakOf_iff`), and a run gives up at the first group with
which such a row is long enough.

- `EndsInRow`: a list ends in a row of items with a property.
- `Handling`: a group that was handled to its end. `RowFull` says that some of them end in a row at
  which a run gives up.
- `GroupsExit.handlings`: the groups up to the exit of a run, with the row in which they end.
- `GivesUp`, `GoesThrough`: the two ends of such a run. By `mergeAll_endsByRow` it has one of them.
-/

namespace RegistryDedup

variable {s : Settings} {backend run : String} {h : Transcript}

/-! ## Rows -/

/-- A list ends in a row of that many items with a property. -/
def EndsInRow {α : Type} (p : α → Prop) (m : Nat) (xs : List α) : Prop :=
  ∃ row, row <:+ xs ∧ row.length = m ∧ ∀ x ∈ row, p x

section

variable {α : Type} {p : α → Prop} {m : Nat} {xs : List α} {x : α}

theorem endsInRow_zero : EndsInRow p 0 xs :=
  ⟨[], List.nil_suffix, rfl, List.forall_mem_nil _⟩

theorem not_endsInRow_nil (hm : 0 < m) : ¬ EndsInRow p m [] := by
  rintro ⟨row, hrow, rfl, -⟩
  rw [List.suffix_nil.mp hrow] at hm
  exact absurd hm (Nat.lt_irrefl 0)

theorem endsInRow_concat : EndsInRow p (m + 1) (xs ++ [x]) ↔ p x ∧ EndsInRow p m xs := by
  constructor
  · rintro ⟨row, hrow, hlen, hall⟩
    rcases List.suffix_concat_iff.mp hrow with rfl | ⟨front, rfl, hfront⟩
    · cases hlen
    · obtain ⟨hall, hx⟩ := List.forall_mem_append.mp hall
      rw [List.length_append] at hlen
      exact ⟨hx x List.mem_cons_self, front, hfront, Nat.succ.inj hlen, hall⟩
  · rintro ⟨hx, row, hrow, rfl, hall⟩
    have hsuffix : row ++ [x] <:+ xs ++ [x] := List.suffix_concat_iff.mpr (.inr ⟨row, rfl, hrow⟩)
    exact ⟨row ++ [x], hsuffix, List.length_append,
      List.forall_mem_append.mpr ⟨hall, by simpa using hx⟩⟩

theorem EndsInRow.congr {q : α → Prop} (h : EndsInRow p m xs) (hpq : ∀ x ∈ xs, p x → q x) :
    EndsInRow q m xs := by
  obtain ⟨row, hrow, hlen, hall⟩ := h
  exact ⟨row, hrow, hlen, fun x hx => hpq x (hrow.subset hx) (hall x hx)⟩

end

/-- A group that was handled to its end: what was asked for it, its report, and whether it is
counted. -/
structure Handling where
  group : DuplicateGroup
  asked : Transcript
  report : GroupReport
  transient : Bool

/-- The group was handled so by the run. -/
def Handling.Valid (s : Settings) (run : String) (x : Handling) : Prop :=
  (mergeGroup s run x.group).Yields x.asked (.ok (x.report, x.transient))

/-- What was asked for the group ended in a transient failure. -/
def Handling.Failed (s : Settings) (x : Handling) : Prop :=
  FailedTransiently s x.group x.asked

theorem Handling.Valid.transient_iff {x : Handling} (hx : x.Valid s run) :
    x.transient = true ↔ x.Failed s :=
  GroupCourse.transient_iff (yields_mergeGroup hx)

/-- The count of a run after some more groups. -/
def streakOf (streak : Nat) (handled : List Handling) : Nat :=
  handled.foldl (fun n x => if x.transient then n + 1 else 0) streak

theorem streakOf_concat (streak : Nat) (handled : List Handling) (x : Handling) :
    streakOf streak (handled ++ [x]) = if x.transient then streakOf streak handled + 1 else 0 := by
  rw [streakOf, List.foldl_append]
  rfl

/-- The count of a run is the length of the row in which the groups handled so far end. -/
theorem le_streakOf_iff {m : Nat} {handled : List Handling} :
    m ≤ streakOf 0 handled ↔ EndsInRow (·.transient = true) m handled := by
  -- The count looks at the last group first, and so does the induction.
  induction handled using List.reverseRecOn generalizing m with
  | nil =>
    cases m with
    | zero => exact iff_of_true (Nat.le_refl 0) endsInRow_zero
    | succ m => exact iff_of_false (Nat.not_succ_le_zero m) (not_endsInRow_nil m.succ_pos)
  | append_singleton handled x ih =>
    cases m with
    | zero => exact iff_of_true (Nat.zero_le _) endsInRow_zero
    | succ m =>
      rw [streakOf_concat, endsInRow_concat]
      split
      · next ht => rw [Nat.succ_le_succ_iff, ih, and_iff_right ht]
      · next ht => exact iff_of_false (Nat.not_succ_le_zero m) fun h => ht h.1

/-! ## The groups of a run -/

/-- So many groups in a row that failed transiently make a run give up. -/
def Settings.rowLimit (s : Settings) : Nat :=
  max s.maxFailuresInARow 1

theorem Settings.rowLimit_pos (s : Settings) : 0 < s.rowLimit :=
  Nat.lt_of_lt_of_le Nat.zero_lt_one (Nat.le_max_right _ _)

/-- The groups handled so far end in a row at which a run gives up. -/
def RowFull (s : Settings) (handled : List Handling) : Prop :=
  EndsInRow (·.Failed s) s.rowLimit handled

theorem rowFull_iff {handled : List Handling} (hvalid : ∀ x ∈ handled, x.Valid s run) :
    RowFull s handled ↔ s.rowLimit ≤ streakOf 0 handled := by
  rw [le_streakOf_iff]
  exact ⟨fun h => h.congr fun x hx => (hvalid x hx).transient_iff.mpr,
    fun h => h.congr fun x hx => (hvalid x hx).transient_iff.mp⟩

/-- How the groups of a run end, with what is asked after those that were handled. -/
inductive RowExit (s : Settings) (run : String) (partialOf : List GroupReport → Summary)
    (groups : List DuplicateGroup) (handled : List Handling) :
    Transcript → Except Stop (List GroupReport) → Prop
  | all (hall : handled.map (·.group) = groups)
      (hnever : ∀ front, front <+: handled → ¬ RowFull s front) :
      RowExit s run partialOf groups handled [] (.ok (handled.map (·.report)))
  | gaveUp {front : List Handling} {last : Handling} {reason : String}
      (hsplit : handled = front ++ [last]) (hbegun : handled.map (·.group) <+: groups)
      (hfull : RowFull s handled) (hfirst : ∀ early, early <+: front → ¬ RowFull s early)
      (hreason : reason = abortReason s.rowLimit last.group.key) :
      RowExit s run partialOf groups handled [] (.error (.aborted reason
        { partialOf (handled.map (·.report)) with aborted := some reason }))
  /-- The entry of the next group could not be written. -/
  | unwritten {g : DuplicateGroup} {asked : Transcript} {stop : Stop}
      (hnext : handled.map (·.group) ++ [g] <+: groups)
      (hnever : ∀ front, front <+: handled → ¬ RowFull s front)
      (hlast : GroupCourse s run g asked (.error stop)) :
      RowExit s run partialOf groups handled asked (.error stop)

section

variable {before : List Handling} {x : Handling}

theorem valid_concat (hbefore : ∀ y ∈ before, y.Valid s run) (hx : x.Valid s run) :
    ∀ y ∈ before ++ [x], y.Valid s run :=
  List.forall_mem_append.mpr ⟨hbefore, List.forall_mem_singleton.mpr hx⟩

theorem reports_concat (before : List Handling) (x : Handling) :
    (before ++ [x]).map (·.report) = before.map (·.report) ++ [x.report] := by
  rw [List.map_append, List.map_singleton]

/-- A row that was not long enough before a group has just the right length with it. -/
theorem rowLimit_eq (hbefore : ∀ y ∈ before, y.Valid s run) (hnot : ¬ RowFull s before)
    (hlimit : s.rowLimit ≤ streakOf 0 before + 1) : s.rowLimit = streakOf 0 before + 1 := by
  rw [rowFull_iff hbefore, Nat.not_le] at hnot
  exact Nat.le_antisymm hlimit hnot

theorem rowFull_concat (hbefore : ∀ y ∈ before, y.Valid s run) (hx : x.Valid s run)
    (ht : x.transient = true) (hlimit : s.rowLimit ≤ streakOf 0 before + 1) :
    RowFull s (before ++ [x]) := by
  rw [rowFull_iff (valid_concat hbefore hx), streakOf_concat, if_pos ht]
  exact hlimit

/-- Where a run goes on after a group, no row was long enough yet. -/
theorem never_concat (hbefore : ∀ y ∈ before, y.Valid s run) (hx : x.Valid s run)
    (hnever : ∀ front, front <+: before → ¬ RowFull s front)
    (hlimit : x.transient = true → streakOf 0 before + 1 < s.rowLimit) :
    ∀ front, front <+: before ++ [x] → ¬ RowFull s front := by
  intro front hfront
  rcases List.prefix_concat_iff.mp hfront with rfl | hfront
  · rw [rowFull_iff (valid_concat hbefore hx), streakOf_concat, Nat.not_le]
    split
    · next ht => exact hlimit ht
    · exact s.rowLimit_pos
  · exact hnever front hfront

end

/-- The groups that a run goes on to handle, after those that it has handled. -/
theorem GroupsExit.handlings {partialOf : List GroupReport → Summary}
    {groups : List DuplicateGroup} {streak : Nat} {done : List GroupReport}
    {result : Except Stop (List GroupReport)}
    (hc : GroupsExit s run partialOf groups streak done h result)
    (before : List Handling) (hbefore : ∀ x ∈ before, x.Valid s run)
    (hstreak : streak = streakOf 0 before) (hdone : done = before.map (·.report))
    (hnever : ∀ front, front <+: before → ¬ RowFull s front) :
    ∃ (handled : List Handling) (last : Transcript),
      h = (handled.map (·.asked)).flatten ++ last ∧ (∀ x ∈ before ++ handled, x.Valid s run) ∧
      RowExit s run partialOf (before.map (·.group) ++ groups) (before ++ handled) last result := by
  -- A row may begin before the groups that are left, so the groups handled before are kept along
  -- the induction instead of the count that stands for them.
  induction hc generalizing before with
  | finished =>
    subst hdone
    refine ⟨[], [], rfl, by rwa [List.append_nil], ?_⟩
    rw [List.append_nil, List.append_nil]
    exact .all rfl hnever
  | @unwritten g groups _ _ asked _ hlast =>
    refine ⟨[], asked, rfl, by rwa [List.append_nil], ?_⟩
    rw [List.append_nil]
    refine .unwritten ?_ hnever (yields_mergeGroup hlast)
    rw [List.prefix_append_right_inj]
    exact List.cons_prefix_cons.mpr ⟨rfl, List.nil_prefix⟩
  | @gaveUp g groups streak done asked report reason hlast hlimit hreason =>
    subst hdone hstreak
    let x : Handling := ⟨g, asked, report, true⟩
    have hx : x.Valid s run := hlast
    refine ⟨[x], [], by simp [x], valid_concat hbefore hx, ?_⟩
    have hreports := reports_concat before x
    rw [← hreports]
    refine .gaveUp rfl ?_ (rowFull_concat hbefore hx rfl hlimit) hnever ?_
    · rw [List.map_append, List.prefix_append_right_inj]
      exact List.cons_prefix_cons.mpr ⟨rfl, List.nil_prefix⟩
    · rw [rowLimit_eq hbefore (hnever before (List.prefix_refl _)) hlimit, hreason]
  | @next g groups streak done asked rest report transient result hfirst hlimit hrest ih =>
    subst hdone hstreak
    let x : Handling := ⟨g, asked, report, transient⟩
    have hx : x.Valid s run := hfirst
    obtain ⟨handled, last, rfl, hall, hexit⟩ := ih _ (valid_concat hbefore hx)
      (streakOf_concat 0 before x).symm (reports_concat before x).symm
      (never_concat hbefore hx hnever hlimit)
    refine ⟨x :: handled, last, by simp [x], by rwa [List.append_cons], ?_⟩
    rw [List.append_cons before, List.append_cons (before.map _)]
    rwa [List.map_append] at hexit

/-- The groups of a run, from the first one on. -/
theorem CandidatesExit.handlings {entities : List Entity}
    {groups : Except Stop (List GroupReport)}
    (hc : CandidatesExit s backend run entities h groups) :
    ∃ (handled : List Handling) (last : Transcript),
      h = (handled.map (·.asked)).flatten ++ last ∧ (∀ x ∈ handled, x.Valid s run) ∧
      RowExit s run (summarize s backend run entities.length · [])
        (Grouping.build s.normalizer entities).candidates handled last groups := by
  have hnever : ∀ front : List Handling, front <+: [] → ¬ RowFull s front := by
    intro front hfront
    rw [List.prefix_nil.mp hfront]
    exact not_endsInRow_nil s.rowLimit_pos
  exact GroupsExit.handlings hc [] (List.forall_mem_nil _) rfl rfl hnever

/-! ## A whole run -/

/-- A run gave up at the first group with which the row was long enough. It asked nothing more, and
it tells the reports of the groups that it handled. -/
structure GivesUp (s : Settings) (handled : List Handling) (closing : Transcript)
    (result : Except Stop Summary) : Prop where
  full : RowFull s handled
  first : ∀ front, front <+: handled → front ≠ handled → ¬ RowFull s front
  silent : closing = []
  told : ∃ (last : Handling) (summary : Summary), handled.getLast? = some last ∧
    result = .error (.aborted (abortReason s.rowLimit last.group.key) summary) ∧
    summary.groups = handled.map (·.report) ∧ summary.residuals = [] ∧ summary.exitCode = 2

/-- A run handled all candidates, as the row was never long enough, and looked at the table. -/
structure GoesThrough (s : Settings) (backend run : String) (entities : List Entity)
    (handled : List Handling) (closing : Transcript) (result : Except Stop Summary) : Prop where
  all : handled.map (·.group) = (Grouping.build s.normalizer entities).candidates
  never : ∀ front, front <+: handled → ¬ RowFull s front
  closed : Closed s backend run entities (.ok (handled.map (·.report))) closing result

/-- A run that fetched the entities handled the first candidates, in the order in which their keys
come up. It gave up after them, or they are all. -/
structure EndsByRow (s : Settings) (backend run : String) (entities : List Entity)
    (handled : List Handling) (opening closing last : Transcript)
    (result : Except Stop Summary) : Prop where
  fetched : ⟨Action.call (.fetchEntities s.entity), Attempt.answered (.ok entities)⟩ ∈ opening
  opened : ∀ e ∈ opening, s.Frames e.1
  begun : handled.map (·.group) <+: (Grouping.build s.normalizer entities).candidates
  ordered : (handled.map (·.group.key)).Pairwise
    (Precedes (entities.map fun e => s.normalizer.key e.name))
  valid : ∀ x ∈ handled, x.Valid s run
  ended : GivesUp s handled closing result ∨
    GoesThrough s backend run entities handled closing result
  left : ∀ e ∈ last, e.1.Bordering

theorem RowExit.begun {partialOf : List GroupReport → Summary} {groups : List DuplicateGroup}
    {handled : List Handling} {last : Transcript} {result : Except Stop (List GroupReport)}
    (hc : RowExit s run partialOf groups handled last result) :
    handled.map (·.group) <+: groups := by
  cases hc with
  | all hall _ => exact hall ▸ List.prefix_refl _
  | gaveUp _ hbegun _ _ _ => exact hbegun
  | unwritten hnext _ _ => exact (List.prefix_append _ _).trans hnext

/-- No row was long enough before the groups that were handled. -/
theorem RowExit.first {partialOf : List GroupReport → Summary} {groups : List DuplicateGroup}
    {handled : List Handling} {last : Transcript} {result : Except Stop (List GroupReport)}
    (hc : RowExit s run partialOf groups handled last result) :
    ∀ early, early <+: handled → early ≠ handled → ¬ RowFull s early := by
  intro early hearly hne
  cases hc with
  | all _ hnever => exact hnever early hearly
  | gaveUp hsplit _ _ hfirst _ =>
    -- Prefixes but for the whole are those of the groups before the last.
    subst hsplit
    exact hfirst early ((List.prefix_concat_iff.mp hearly).resolve_left hne)
  | unwritten _ hnever _ => exact hnever early hearly

theorem RowExit.ended {entities : List Entity} {handled : List Handling}
    {closing last : Transcript} {groups : Except Stop (List GroupReport)}
    {result : Except Stop Summary}
    (hc : RowExit s run (summarize s backend run entities.length · [])
      (Grouping.build s.normalizer entities).candidates handled last groups)
    (hclosed : Closed s backend run entities groups closing result) (hkept : ¬ EntryLost last) :
    last = [] ∧ (GivesUp s handled closing result ∨
      GoesThrough s backend run entities handled closing result) := by
  have hfirst := hc.first
  cases hc with
  | all hall hnever => exact ⟨rfl, .inr { all := hall, never := hnever, closed := hclosed }⟩
  | @gaveUp front last _ hsplit _ hfull _ hreason =>
    subst hsplit hreason
    cases hclosed
    refine ⟨rfl, .inl { full := hfull, first := hfirst, silent := rfl, told := ?_ }⟩
    exact ⟨last, _, List.getLast?_concat, rfl, rfl, rfl, rfl⟩
  | unwritten _ _ hlast =>
    obtain ⟨counting, writing, counts, selection, e, rfl, -, hwriting, -⟩ := hlast.stop_of_error
    exact absurd ((entryLost_of_writeJournal hwriting).mono (List.subset_append_right _ _)) hkept

/-- A run that fetched the entities and loses no entry of its journal gives up at the first group
with which so many in a row failed transiently, and otherwise handles all. -/
theorem mergeAll_endsByRow {result : Except Stop Summary}
    (hy : (mergeAll s backend run).Yields h result) (hfetched : ∃ e ∈ h, s.Fetched e)
    (hkept : ¬ EntryLost h) :
    ∃ entities handled opening closing last,
      h = opening ++ ((handled.map (·.asked)).flatten ++ (closing ++ last)) ∧
      EndsByRow s backend run entities handled opening closing last result := by
  rcases yields_frame hy with ⟨-, hnot, -⟩ |
    ⟨entities, opening, merging, closing, last, groups, rfl, hframe⟩
  · obtain ⟨e, he, hfetched⟩ := hfetched
    exact absurd hfetched (hnot e he)
  · obtain ⟨handled, unwritten, rfl, hvalid, hexit⟩ := hframe.merged.handlings
    obtain ⟨rfl, hended⟩ := hexit.ended hframe.closed fun hlost => hkept (hlost.mono fun e he =>
      List.mem_append_right _ (List.mem_append_left _ (List.mem_append_right _ he)))
    have hbegun := hexit.begun
    refine ⟨entities, handled, opening, closing, last, by rw [List.append_nil], ?_⟩
    exact { fetched := hframe.fetched
            opened := hframe.opened
            begun := hbegun
            ordered := by
              have hkeys := hbegun.sublist.map (·.key)
              rw [List.map_map] at hkeys
              exact (Grouping.candidates_keys_precede _ _).sublist hkeys
            valid := hvalid
            ended := hended
            left := hframe.left }

namespace Sample

/-- Every merge fails transiently. -/
def refusingMerges : List Fault :=
  [{ start := "merge", failure := .reported .transient "boom" }]

/-- Two groups in a row are enough to give up. -/
def impatient : Settings :=
  { settings with maxFailuresInARow := 2 }

def impatientTranscript : Transcript :=
  (mergeAll impatient "memory" "run").transcript (World.answer (Faulty.store Tables.store))
    (faulty twoKeys refusingMerges)

def impatientEnd : Except Stop Summary :=
  (World.perform (Faulty.store Tables.store) (mergeAll impatient "memory" "run")
    (faulty twoKeys refusingMerges)).1

/-- Why the run gave up. -/
def impatientReason : String :=
  "2 groups in a row failed with transient errors (last: BAR)"

end Sample

/-- Both groups failed, each after four attempts. The table is not looked at again. -/
theorem mergeAll_endsByRow_refused :
    Sample.calls Sample.impatientTranscript = ["check_columns regions id,name",
      "check_columns projects region_id", "fetch_entities regions", "merge FOO r1 r2",
      "merge FOO r1 r2", "merge FOO r1 r2", "merge FOO r1 r2", "merge BAR r3 r4",
      "merge BAR r3 r4", "merge BAR r3 r4", "merge BAR r3 r4"] ∧
    (∃ summary, Sample.impatientEnd = .error (.aborted Sample.impatientReason summary)) ∧
    (∃ e ∈ Sample.impatientTranscript, Sample.impatient.Fetched e) ∧
    ¬ EntryLost Sample.impatientTranscript ∧
    ∃ entities handled opening closing last,
      Sample.impatientTranscript =
        opening ++ ((handled.map (·.asked)).flatten ++ (closing ++ last)) ∧
      EndsByRow Sample.impatient "memory" "run" entities handled opening closing last
        Sample.impatientEnd := by
  have hlength : 2 < Sample.impatientTranscript.length := by decide +kernel
  have hfetched : ∃ e ∈ Sample.impatientTranscript, Sample.impatient.Fetched e :=
    ⟨_, List.getElem_mem hlength, _, rfl⟩
  have hkept : ¬ EntryLost Sample.impatientTranscript := by
    rintro ⟨path, entry, f, he⟩
    have hno : (Sample.impatientTranscript.any fun e =>
        match e.1 with | .appendJournal _ _ => true | _ => false) = false := by decide +kernel
    exact List.any_eq_false.mp hno _ he rfl
  refine ⟨by decide +kernel, ⟨_, rfl⟩, hfetched, hkept, ?_⟩
  exact mergeAll_endsByRow (Program.yields_transcript _ _ _) hfetched hkept

end RegistryDedup
