import RegistryDedup.Proofs.Merge.EarlyEnd
import RegistryDedup.Proofs.Merge.Survivor
import RegistryDedup.Proofs.Name.Grouping

/-!
# A journal that is written ahead

A group writes its entry to the journal before it changes anything, and the entry says all that it
is about to change. No two groups of a run have one key, so an entry is found by the key of its
group. Where an entry cannot be written, the run changes nothing from there on.

- `journaled`: the entries that were written to a journal up to some point.
- `JournalEntry.Announces`: the merges, moves and deletes that an entry foretells.
- `Ledger`: what is asked for one group, with its entry before its first change.
- `Segmented`: a run to its end, group by group. Only the last group may have lost its entry.
- `WrittenAhead`: at each point of a run every change so far has its entry.
-/

namespace RegistryDedup

variable {s : Settings} {backend run path : String} {g : DuplicateGroup} {h : Transcript}
  {entry : JournalEntry}

/-! ## Entries -/

/-- The entry that was written to a journal, if one was. -/
def entryWritten? (path : String) (e : Action.interface.Exchange) : Option JournalEntry :=
  match e with
  | ⟨.appendJournal written entry, x⟩ =>
    match (x : Except FileError Unit) with
    | .ok () => if written = path then some entry else none
    | .error _ => none
  | _ => none

/-- The entries that were written to a journal, in order. -/
def journaled (path : String) (h : Transcript) : List JournalEntry :=
  h.filterMap (entryWritten? path)

theorem journaled_append (path : String) (h h' : Transcript) :
    journaled path (h ++ h') = journaled path h ++ journaled path h' :=
  List.filterMap_append

/-- An entry that was written to a journal, with the look at the time before it. -/
theorem journaled_noted (path : String) (time : Instant) (entry : JournalEntry) (h : Transcript) :
    journaled path (⟨.now, time⟩ :: ⟨.appendJournal path entry,
      (.ok () : Except FileError Unit)⟩ :: h) = entry :: journaled path h := by
  have hwritten : entryWritten? path ⟨.appendJournal path entry,
      (.ok () : Except FileError Unit)⟩ = some entry := if_pos rfl
  rw [journaled, List.filterMap_cons_none rfl, List.filterMap_cons_some hwritten, journaled]

/-- Nothing else writes an entry. -/
theorem journaled_eq_nil (hh : ∀ e ∈ h, ∀ path entry, e.1 ≠ .appendJournal path entry) :
    journaled path h = [] := by
  refine List.filterMap_eq_nil_iff.mpr fun e he => ?_
  obtain ⟨a, x⟩ := e
  cases a with
  | appendJournal path entry => exact absurd rfl (hh _ he path entry)
  | _ => rfl

/-- The merges, moves and deletes that an entry foretells: those of its losers, towards the entity
that it keeps. -/
def JournalEntry.Announces (s : Settings) (entry : JournalEntry) (a : Action) : Prop :=
  a = .call (.merge ⟨entry.key, entry.keep, entry.losers.map (·.id), s.entity, s.dependents⟩) ∨
    a.Moves s.dependents (entry.losers.map (·.id)) entry.keep ∨
    a.Deletes s.entity (entry.losers.map (·.id))

theorem JournalEntry.Announces.ne_append {a : Action} (ha : entry.Announces s a) (path : String)
    (entry' : JournalEntry) : a ≠ .appendJournal path entry' := by
  rcases ha with rfl | ⟨d, -, l, -, rfl⟩ | ⟨l, -, rfl⟩ <;> exact Action.noConfusion

theorem Action.Looks.ne_append {a : Action} (ha : a.Looks) (path : String) (entry : JournalEntry) :
    a ≠ .appendJournal path entry := by
  rintro rfl
  exact ha

theorem Settings.Frames.ne_append {a : Action} (ha : s.Frames a) (path : String)
    (entry : JournalEntry) : a ≠ .appendJournal path entry := by
  rintro rfl
  exact ha.quiet

theorem journaled_of_looks (hh : ∀ e ∈ h, e.1.Looks) : journaled path h = [] :=
  journaled_eq_nil fun e he => (hh e he).ne_append

theorem journaled_of_announces (hh : ∀ e ∈ h, entry.Announces s e.1) : journaled path h = [] :=
  journaled_eq_nil fun e he => (hh e he).ne_append

/-- Whether an action is a merge in one transaction, with which every merge of a group begins. -/
def Action.isMerge : Action → Bool
  | call (.merge _) => true
  | _ => false

theorem Action.Looks.not_isMerge {a : Action} (ha : a.Looks) : a.isMerge = false := by
  cases a with
  | call r =>
    cases r with
    | merge plan => exact absurd trivial ha
    | _ => rfl
  | _ => rfl

/-- The entry of a group that is split into a survivor and losers. -/
def noteOf (s : Settings) (run : String) (g : DuplicateGroup) (time : Instant)
    (selection : Selection) : JournalEntry :=
  .ofGroup run time g.key selection.keep.id selection.losers s.dependents

theorem losers_noteOf (s : Settings) (run : String) (g : DuplicateGroup) (time : Instant)
    (selection : Selection) :
    (noteOf s run g time selection).losers.map (·.id) = selection.loserIds := by
  show (selection.losers.map JournalLoser.ofEntity).map (·.id) = selection.losers.map (·.id)
  rw [List.map_map]
  rfl

/-! ## One group -/

/-- What is asked for a group that was handled, with its entry before its first change. -/
inductive Ledger (s : Settings) (run path : String) (g : DuplicateGroup) :
    Transcript → Except Stop (GroupReport × Bool) → Prop
  /-- The group did not get as far as its entry. -/
  | passed {h : Transcript} {outcome : GroupReport × Bool} (hlooks : ∀ e ∈ h, e.1.Looks) :
      Ledger s run path g h (.ok outcome)
  /-- Its entry could not be written. -/
  | lost {counting : Transcript} {time : Instant} {entry : JournalEntry} {f : FileError}
      {stop : Stop} (hlooks : ∀ e ∈ counting, e.1.Looks) :
      Ledger s run path g (counting ++
        [⟨.now, time⟩, ⟨.appendJournal path entry, (.error f : Except FileError Unit)⟩])
        (.error stop)
  | noted {counting rest : Transcript} {time : Instant} {counts : List RefCount}
      {selection : Selection} {outcome : GroupReport × Bool}
      (hlooks : ∀ e ∈ counting, e.1.Looks)
      (hselect : select s.policy g.members counts = some selection)
      (hrest : ∀ e ∈ rest, (noteOf s run g time selection).Announces s e.1)
      (hmerge : ∃ e ∈ rest, e.1.isMerge) :
      Ledger s run path g (counting ++ (⟨.now, time⟩ :: ⟨.appendJournal path
        (noteOf s run g time selection), (.ok () : Except FileError Unit)⟩ :: rest)) (.ok outcome)

theorem PlannedCourse.announces {key : String} {selection : Selection} {report : GroupReport}
    {outcome : GroupReport × Bool} (hc : PlannedCourse s (s.plan key selection) report h outcome)
    {entry : JournalEntry} (hkey : entry.key = key) (hkeep : entry.keep = selection.keep.id)
    (hlosers : entry.losers.map (·.id) = selection.loserIds) :
    ∀ e ∈ h, entry.Announces s e.1 := by
  obtain ⟨merging, moves, deletes, rfl, hparts⟩ := hc.parts
  intro e he
  unfold JournalEntry.Announces
  rw [hkey, hkeep, hlosers]
  rw [List.mem_append, List.mem_append] at he
  rcases he with he | he | he
  · exact .inl (hparts.merging_merge e he)
  · exact .inr (.inl (hparts.moves_moves e he))
  · exact .inr (.inr (hparts.deletes_deletes e he))

theorem yields_writeJournal {key : String} {selection : Selection} {written : Except FileError Unit}
    (hpath : s.writeJournal = some path)
    (hy : (writeJournal s run key selection).Yields h written) :
    ∃ time, h = [⟨.now, time⟩, ⟨.appendJournal path
      (.ofGroup run time key selection.keep.id selection.losers s.dependents), written⟩] := by
  rw [writeJournal, hpath] at hy
  obtain ⟨time, _, rfl, x, _, rfl, rfl, rfl⟩ := hy
  exact ⟨time, rfl⟩

theorem GroupCourse.ledger {outcome : Except Stop (GroupReport × Bool)}
    (hc : GroupCourse s run g h outcome) (hpath : s.writeJournal = some path) :
    Ledger s run path g h outcome := by
  have hlooks : ∀ {counting : Transcript} {result}, (countsFor s g).Yields counting result →
      ∀ e ∈ counting, e.1.Looks :=
    fun hcounting e he => ((only_countsFor s g).yields hcounting e he).looks
  cases hc with
  | uncounted hcounting => exact .passed (hlooks hcounting)
  | empty hcounting _ => exact .passed (hlooks hcounting)
  | previewed hcounting _ _ => exact .passed (hlooks hcounting)
  | unwritten hcounting _ _ hwriting =>
    obtain ⟨time, rfl⟩ := yields_writeJournal hpath hwriting
    exact .lost (hlooks hcounting)
  | planned hcounting hselect _ hwriting hrest =>
    obtain ⟨time, rfl⟩ := yields_writeJournal hpath hwriting
    refine .noted (hlooks hcounting) hselect
      (hrest.announces rfl rfl (losers_noteOf s run g time _)) ?_
    obtain ⟨e, he, hmerge⟩ := hrest.exists_merge
    exact ⟨e, he, by rw [hmerge]; rfl⟩

namespace Ledger

variable {before after : Transcript} {e : Action.interface.Exchange}
  {outcome : Except Stop (GroupReport × Bool)}

/-- A change of a group comes after its entry, which announces it, and no other was written. -/
theorem ahead (hl : Ledger s run path g h outcome) (hsplit : h = before ++ e :: after)
    (halters : e.1.Alters) :
    ∃ time counts selection, select s.policy g.members counts = some selection ∧
      journaled path before = [noteOf s run g time selection] ∧
      (noteOf s run g time selection).Announces s e.1 := by
  have hlooks : ∀ {counting : Transcript}, (∀ e ∈ counting, e.1.Looks) → e ∉ counting :=
    fun hlooks he => (hlooks e he).quiet.not_alters halters
  have hnow : e.1 ≠ .now := fun heq => by
    obtain ⟨r, -, hr⟩ := halters
    cases heq.symm.trans hr
  have happend : ∀ path entry, e.1 ≠ .appendJournal path entry := fun _ _ heq => by
    obtain ⟨r, -, hr⟩ := halters
    cases heq.symm.trans hr
  cases hl with
  | passed hh => exact absurd (hsplit ▸ by simp) (hlooks hh)
  | lost hh =>
    have he : e ∈ before ++ e :: after := by simp
    rw [← hsplit, List.mem_append, List.mem_cons, List.mem_singleton] at he
    rcases he with he | rfl | rfl
    · exact absurd he (hlooks hh)
    · exact absurd rfl hnow
    · exact absurd rfl (happend _ _)
  | @noted counting rest time counts selection _ hh hselect hrest _ =>
    refine ⟨time, counts, selection, hselect, ?_⟩
    rcases split_append hsplit with ⟨rest, rfl, -⟩ | ⟨front, rfl, hlast⟩
    · exact absurd (by simp) (hlooks hh)
    · -- Neither the time nor the entry is a change, so the change comes after both.
      match front with
      | [] =>
        obtain ⟨rfl, -⟩ := List.cons.inj hlast
        exact absurd rfl hnow
      | [_] =>
        obtain ⟨-, hlast⟩ := List.cons.inj hlast
        obtain ⟨rfl, -⟩ := List.cons.inj hlast
        exact absurd rfl (happend _ _)
      | _ :: _ :: front =>
        obtain ⟨rfl, hentry⟩ := List.cons.inj hlast
        obtain ⟨rfl, rfl⟩ := List.cons.inj hentry
        refine ⟨?_, hrest e (by simp)⟩
        rw [journaled_append, journaled_of_looks hh, List.nil_append, journaled_noted]
        exact congrArg (_ :: ·) (journaled_of_announces fun e he => hrest e (by simp [he]))

/-- A group has an entry, under its key, just where it got as far as its merge. -/
theorem keys_journaled (hl : Ledger s run path g h outcome) :
    (journaled path h).map (·.key) = if h.any (·.1.isMerge) then [g.key] else [] := by
  have hany : ∀ {counting : Transcript}, (∀ e ∈ counting, e.1.Looks) →
      counting.any (·.1.isMerge) = false :=
    fun hlooks => List.any_eq_false.mpr fun e he => by simp [(hlooks e he).not_isMerge]
  cases hl with
  | passed hh =>
    rw [journaled_of_looks hh, hany hh]
    rfl
  | lost hh =>
    rw [journaled_append, journaled_of_looks hh, List.any_append, hany hh]
    rfl
  | @noted counting rest _ _ _ _ hh _ hrest hmerge =>
    have hmerged : rest.any (·.1.isMerge) = true := List.any_eq_true.mpr hmerge
    rw [journaled_append, journaled_of_looks hh, List.any_append, hany hh, List.nil_append,
      List.any_cons, List.any_cons, hmerged, Bool.or_true, Bool.or_true, Bool.or_true, if_pos rfl,
      journaled_noted, journaled_of_announces hrest]
    rfl

/-- An entry that could not be written is the last that is asked for its group, and ends the
run. -/
theorem of_lost {path' : String} {f : FileError} (hl : Ledger s run path g h outcome)
    (hsplit : h = before ++ ⟨.appendJournal path' entry, (.error f : Except FileError Unit)⟩ ::
      after) :
    after = [] ∧ (∀ e ∈ before, ¬ e.1.Alters) ∧ ∃ stop, outcome = .error stop := by
  have hlooks : ∀ {counting : Transcript}, (∀ e ∈ counting, e.1.Looks) →
      ⟨.appendJournal path' entry, (.error f : Except FileError Unit)⟩ ∉ counting :=
    fun hlooks he => (hlooks _ he).ne_append _ _ rfl
  cases hl with
  | passed hh => exact absurd (hsplit ▸ by simp) (hlooks hh)
  | @lost counting time _ _ stop hh =>
    rcases split_append hsplit with ⟨rest, rfl, -⟩ | ⟨front, rfl, hlast⟩
    · exact absurd (by simp) (hlooks hh)
    · match front with
      | [] => cases (List.cons.inj hlast).1
      | [_] =>
        obtain ⟨rfl, hentry⟩ := List.cons.inj hlast
        refine ⟨(List.cons.inj hentry).2.symm, ?_, stop, rfl⟩
        refine List.forall_mem_append.mpr ⟨fun e he => (hh e he).quiet.not_alters, ?_⟩
        rintro e (_ | ⟨_, he⟩)
        · rintro ⟨r, -, hr⟩
          cases hr
        · exact absurd he List.not_mem_nil
      | _ :: _ :: front => simp at hlast
  | @noted counting rest _ _ _ _ hh _ hrest _ =>
    have he : ⟨.appendJournal path' entry, (.error f : Except FileError Unit)⟩ ∈ before ++
      ⟨.appendJournal path' entry, (.error f : Except FileError Unit)⟩ :: after := by simp
    rw [← hsplit, List.mem_append, List.mem_cons, List.mem_cons] at he
    rcases he with he | he | he | he
    · exact absurd he (hlooks hh)
    · cases he
    · cases he
    · exact absurd rfl ((hrest _ he).ne_append _ _)

end Ledger

/-! ## Groups -/

/-- The first groups of a run, each with all that was asked for it. Only the last of them may have
ended the run. -/
structure Segmented (s : Settings) (run : String) (groups : List DuplicateGroup)
    (segments : List (DuplicateGroup × Transcript)) : Prop where
  begun : segments.map (·.1) <+: groups
  asked : ∀ seg ∈ segments, ∃ outcome, (mergeGroup s run seg.1).Yields seg.2 outcome
  wentOn : ∀ seg ∈ segments.dropLast, ∃ outcome, (mergeGroup s run seg.1).Yields seg.2 (.ok outcome)

theorem GroupsExit.segmented {partialOf : List GroupReport → Summary}
    {groups : List DuplicateGroup} {streak : Nat} {done : List GroupReport}
    {result : Except Stop (List GroupReport)}
    (hc : GroupsExit s run partialOf groups streak done h result) :
    ∃ segments, h = (segments.map (·.2)).flatten ∧ Segmented s run groups segments := by
  have hone : ∀ {g : DuplicateGroup} {groups : List DuplicateGroup} {asked : Transcript}
      {outcome : Except Stop (GroupReport × Bool)}, (mergeGroup s run g).Yields asked outcome →
      ∃ segments, asked = (segments.map (·.2)).flatten ∧
        Segmented s run (g :: groups) segments := by
    intro g groups asked outcome hlast
    exact ⟨[(g, asked)], by simp, by simp, by simpa using ⟨outcome, hlast⟩, by simp⟩
  induction hc with
  | finished => exact ⟨[], rfl, List.nil_prefix, by simp, by simp⟩
  | unwritten hlast => exact hone hlast
  | gaveUp hlast _ _ => exact hone hlast
  | @next g _ _ _ asked _ _ _ _ hfirst _ _ ih =>
    obtain ⟨segments, rfl, hsegments⟩ := ih
    refine ⟨(g, asked) :: segments, by simp, by simpa using hsegments.begun,
      List.forall_mem_cons.mpr ⟨⟨_, hfirst⟩, hsegments.asked⟩, ?_⟩
    cases segments with
    | nil => simp
    | cons seg segments =>
      rw [List.dropLast_cons_cons]
      exact List.forall_mem_cons.mpr ⟨⟨_, hfirst⟩, hsegments.wentOn⟩

/-- A run to its end: around the groups nothing is asked for any of them. -/
theorem yields_segments {result : Except Stop Summary}
    (hy : (mergeAll s backend run).Yields h result) :
    ∃ entities opening segments closing,
      h = opening ++ ((segments.map (·.2)).flatten ++ closing) ∧
      (segments ≠ [] → ⟨Action.call (.fetchEntities s.entity),
        Attempt.answered (.ok entities)⟩ ∈ opening) ∧
      (∀ e ∈ opening ++ closing, s.Frames e.1) ∧
      Segmented s run (Grouping.build s.normalizer entities).candidates segments := by
  rcases yields_frame hy with ⟨hframes, -⟩ |
    ⟨entities, opening, merging, closing, last, groups, rfl, hframe⟩
  · exact ⟨[], h, [], [], by simp, fun hne => absurd rfl hne, by simpa using hframes,
      List.nil_prefix, by simp, by simp⟩
  · obtain ⟨segments, rfl, hsegments⟩ := hframe.merged.segmented
    refine ⟨entities, opening, segments, closing ++ last, rfl, fun _ => hframe.fetched, ?_,
      hsegments⟩
    refine List.forall_mem_append.mpr ⟨hframe.opened, List.forall_mem_append.mpr
      ⟨hframe.closed.frames, fun e he => .inr (.inl (hframe.left e he))⟩⟩

/-- What is asked for no frame is asked for a group. -/
theorem split_of_not_frames {opening merging closing before after : Transcript}
    {e : Action.interface.Exchange} (hframes : ∀ e ∈ opening ++ closing, s.Frames e.1)
    (hsplit : opening ++ (merging ++ closing) = before ++ e :: after) (he : ¬ s.Frames e.1) :
    ∃ front back, merging = front ++ e :: back ∧ before = opening ++ front ∧
      after = back ++ closing := by
  rw [List.forall_mem_append] at hframes
  rcases split_append hsplit with ⟨rest, rfl, -⟩ | ⟨front, rfl, hrest⟩
  · exact absurd (hframes.1 e (by simp)) he
  · rcases split_append hrest with ⟨back, rfl, rfl⟩ | ⟨front', rfl, rfl⟩
    · exact ⟨front, back, rfl, rfl, rfl⟩
    · exact absurd (hframes.2 e (by simp)) he

/-! ## A whole run -/

section

variable {groups : List DuplicateGroup} {segments front back : List (DuplicateGroup × Transcript)}
  {own : Transcript}

theorem Segmented.ledger (hs : Segmented s run groups segments)
    (hpath : s.writeJournal = some path) {seg : DuplicateGroup × Transcript}
    (hseg : seg ∈ segments) : ∃ outcome, (mergeGroup s run seg.1).Yields seg.2 outcome ∧
      Ledger s run path seg.1 seg.2 outcome := by
  obtain ⟨outcome, hy⟩ := hs.asked seg hseg
  exact ⟨outcome, hy, (yields_mergeGroup hy).ledger hpath⟩

/-- The entries of some groups are those of the groups that got as far as their merge. -/
theorem Segmented.keys_journaled (hs : Segmented s run groups segments)
    (hpath : s.writeJournal = some path) (hsub : front ⊆ segments) :
    (journaled path (front.map (·.2)).flatten).map (·.key) =
      (front.filter fun seg => seg.2.any (·.1.isMerge)).map (·.1.key) := by
  induction front with
  | nil => rfl
  | cons seg front ih =>
    obtain ⟨hseg, hfront⟩ := List.cons_subset.mp hsub
    obtain ⟨outcome, -, hledger⟩ := hs.ledger hpath hseg
    rw [List.map_cons, List.flatten_cons, journaled_append, List.map_append, ih hfront,
      hledger.keys_journaled, List.filter_cons]
    split <;> rfl

/-- No group before another one has an entry under its key. -/
theorem Segmented.filter_journaled (hs : Segmented s run groups (front ++ (g, own) :: back))
    (hkeys : (groups.map (·.key)).Nodup) (hpath : s.writeJournal = some path) :
    (journaled path (front.map (·.2)).flatten).filter (·.key = g.key) = [] := by
  refine List.filter_eq_nil_iff.mpr fun entry hentry heq => ?_
  have hmem : entry.key ∈ (journaled path (front.map (·.2)).flatten).map (·.key) :=
    List.mem_map_of_mem hentry
  rw [hs.keys_journaled hpath (List.subset_append_left _ _), of_decide_eq_true heq] at hmem
  obtain ⟨seg, hseg, hkey⟩ := List.mem_map.mp hmem
  have hnodup := hkeys.sublist (hs.begun.sublist.map (·.key))
  rw [List.map_append, List.map_append, List.nodup_append] at hnodup
  exact hnodup.2.2 _ (List.mem_map_of_mem (List.mem_map_of_mem (List.mem_filter.mp hseg).1)) _
    (by simp) hkey

end

/-- The entry of a change that was made after something else. -/
structure Announced (s : Settings) (run path : String) (before : Transcript)
    (e : Action.interface.Exchange) (entities : List Entity) (g : DuplicateGroup)
    (entry : JournalEntry) : Prop where
  fetched : ⟨Action.call (.fetchEntities s.entity), Attempt.answered (.ok entities)⟩ ∈ before
  candidate : g ∈ (Grouping.build s.normalizer entities).candidates
  /-- The change is made for the group. -/
  handled : ∃ earlier own, before = earlier ++ own ∧ (mergeGroup s run g).Asks (own ++ [e])
  /-- The journal has this entry for the group, and no other. -/
  written : (journaled path before).filter (·.key = g.key) = [entry]
  announces : entry.Announces s e.1
  run_eq : entry.run = run
  /-- Each loser has the name and the time of a member of the group, as they were fetched. -/
  losers : ∀ l ∈ entry.losers, ∃ member ∈ g.members, member ∈ entities ∧
    l.id = member.id ∧ l.name = member.name ∧ l.created = member.created
  /-- All dependents are named that the run may touch. -/
  dependents : entry.dependents = s.dependents.map fun d => d.table ++ ":" ++ d.column

/-- What a run has written to its journal at each point. -/
structure WrittenAhead (s : Settings) (backend run path : String) (h : Transcript) : Prop where
  /-- Every change comes after its entry. -/
  ahead : ∀ before e after, h = before ++ e :: after → e.1.Alters →
    ∃ entities g entry, Announced s run path before e entities g entry
  /-- Where an entry cannot be written, its group and the later ones change nothing. -/
  lost : ∀ before file entry (f : FileError) after,
    h = before ++ ⟨.appendJournal file entry, (.error f : Except FileError Unit)⟩ :: after →
    (∀ e ∈ after, ¬ e.1.Alters) ∧ ∃ g earlier own, before = earlier ++ own ∧
      (mergeGroup s run g).Asks
        (own ++ [⟨.appendJournal file entry, (.error f : Except FileError Unit)⟩]) ∧
      ∀ e ∈ own, ¬ e.1.Alters
  /-- A run that came to its end has an entry for each group that got as far as its merge. -/
  entries : ∀ result, (mergeAll s backend run).Yields h result →
    ∃ (entities : List Entity) (opening closing : Transcript)
      (segments : List (DuplicateGroup × Transcript)),
      h = opening ++ ((segments.map (·.2)).flatten ++ closing) ∧
      (segments ≠ [] → ⟨Action.call (.fetchEntities s.entity),
        Attempt.answered (.ok entities)⟩ ∈ opening) ∧
      (∀ e ∈ opening ++ closing, s.Frames e.1) ∧
      segments.map (·.1) <+: (Grouping.build s.normalizer entities).candidates ∧
      (∀ seg ∈ segments, ∃ outcome, (mergeGroup s run seg.1).Yields seg.2 outcome) ∧
      (journaled path h).map (·.key) =
        (segments.filter fun seg => seg.2.any (·.1.isMerge)).map (·.1.key)

section

variable {entities : List Entity} {segments : List (DuplicateGroup × Transcript)}
  {opening closing before after : Transcript} {e : Action.interface.Exchange}

theorem journaled_of_frames (hh : ∀ e ∈ h, s.Frames e.1) : journaled path h = [] :=
  journaled_eq_nil fun e he => (hh e he).ne_append

theorem announced_of_segmented
    (hfetched : segments ≠ [] → ⟨Action.call (.fetchEntities s.entity),
      Attempt.answered (.ok entities)⟩ ∈ opening)
    (hframes : ∀ e ∈ opening ++ closing, s.Frames e.1)
    (hs : Segmented s run (Grouping.build s.normalizer entities).candidates segments)
    (hpath : s.writeJournal = some path)
    (hsplit : opening ++ ((segments.map (·.2)).flatten ++ closing) = before ++ e :: after)
    (halters : e.1.Alters) : ∃ g entry, Announced s run path before e entities g entry := by
  obtain ⟨mid, back, hmid, rfl, -⟩ :=
    split_of_not_frames hframes hsplit fun he => he.quiet.not_alters halters
  obtain ⟨front, ⟨g, _⟩, own, rest, later, rfl, rfl, rfl, -⟩ := split_flatten hmid
  obtain ⟨outcome, hy, hledger⟩ := hs.ledger hpath (List.mem_append_right _ List.mem_cons_self)
  obtain ⟨time, counts, selection, hselect, hown, hannounces⟩ := hledger.ahead rfl halters
  have hcandidate : g ∈ (Grouping.build s.normalizer entities).candidates :=
    hs.begun.subset (by simp)
  refine ⟨g, noteOf s run g time selection, ?_⟩
  constructor
  · exact List.mem_append_left _ (hfetched (by simp))
  · exact hcandidate
  · have hasks : (mergeGroup s run g).Asks (own ++ [e] ++ rest) := by
      rw [List.append_assoc]
      exact hy.asks
    exact ⟨opening ++ (front.map (·.2)).flatten, own, by simp, hasks.of_append⟩
  · rw [journaled_append, journaled_append, List.filter_append, List.filter_append, hown,
      hs.filter_journaled (Grouping.candidates_keys_nodup _ _) hpath,
      journaled_of_frames fun e he => hframes e (List.mem_append_left _ he)]
    simp [noteOf, JournalEntry.ofGroup]
  · exact hannounces
  · rfl
  · intro l hl
    obtain ⟨member, hmember, hl⟩ := List.mem_map.mp hl
    have hmem : member ∈ g.members := (mem_members_iff hselect).mpr (.inr hmember)
    exact ⟨member, hmem, ((Grouping.mem_of_mem_candidates hcandidate).mp hmem).1,
      JournalLoser.eq_ofEntity_iff.mp hl.symm⟩
  · rfl

theorem mem_dropLast_of_next {α : Type} (front : List α) (a b : α) (back : List α) :
    a ∈ (front ++ a :: b :: back).dropLast := by
  rw [List.dropLast_append_of_ne_nil (List.cons_ne_nil _ _), List.dropLast_cons_cons]
  simp

theorem lost_of_segmented {lostPath : String} {f : FileError}
    (hframes : ∀ e ∈ opening ++ closing, s.Frames e.1)
    (hs : Segmented s run (Grouping.build s.normalizer entities).candidates segments)
    (hpath : s.writeJournal = some path)
    (hsplit : opening ++ ((segments.map (·.2)).flatten ++ closing) = before ++
      ⟨.appendJournal lostPath entry, (.error f : Except FileError Unit)⟩ :: after) :
    (∀ e ∈ after, ¬ e.1.Alters) ∧ ∃ g earlier own, before = earlier ++ own ∧
      (mergeGroup s run g).Asks
        (own ++ [⟨.appendJournal lostPath entry, (.error f : Except FileError Unit)⟩]) ∧
      ∀ e ∈ own, ¬ e.1.Alters := by
  obtain ⟨mid, back, hmid, rfl, rfl⟩ :=
    split_of_not_frames hframes hsplit fun he => he.ne_append _ _ rfl
  obtain ⟨front, ⟨g, _⟩, own, rest, later, rfl, rfl, rfl, rfl⟩ := split_flatten hmid
  obtain ⟨outcome, hy, hledger⟩ := hs.ledger hpath (List.mem_append_right _ List.mem_cons_self)
  obtain ⟨rfl, hown, stop, rfl⟩ := hledger.of_lost rfl
  have hlast : later = [] := by
    cases later with
    | nil => rfl
    | cons seg later =>
      -- A group with another one after it has not ended the run.
      obtain ⟨outcome, hok⟩ := hs.wentOn _ (mem_dropLast_of_next front _ seg later)
      cases (hy.unique hok (rfl : own ++ [_] ++ [] = own ++ [_] ++ [])).2
  subst hlast
  refine ⟨fun e he => (hframes e ?_).quiet.not_alters,
    g, opening ++ (front.map (·.2)).flatten, own, by simp, hy.asks, hown⟩
  simpa using .inr he

end

/-- **The journal is written ahead.** At every point of a run that writes a journal, whatever the
store and the journal answer, each change that was made comes after the one entry of its group,
which says what is moved and deleted and which entity is kept. Where an entry cannot be written
nothing is changed any more. A run that came to its end has entries for just those groups that got
as far as their merge, in their order. -/
theorem mergeAll_writtenAhead (hdry : s.dryRun = false) (hjournal : s.journal = some path)
    (ha : (mergeAll s backend run).Asks h) : WrittenAhead s backend run path h := by
  have hpath : s.writeJournal = some path := by
    rw [Settings.writeJournal, hdry, hjournal]
    rfl
  -- A stopped run could have gone on to its end, and at that end all of its points are seen.
  obtain ⟨rest, result, hy⟩ := ha.exists_yields Action.answer_nonempty
  obtain ⟨entities, opening, segments, closing, hsplit, hfetched, hframes, hs⟩ :=
    yields_segments hy
  constructor
  · intro before e after hh halters
    rw [hh, List.append_assoc, List.cons_append] at hsplit
    exact ⟨entities, announced_of_segmented hfetched hframes hs hpath hsplit.symm halters⟩
  · intro before lostPath entry f after hh
    rw [hh, List.append_assoc, List.cons_append] at hsplit
    obtain ⟨hafter, hgroup⟩ := lost_of_segmented hframes hs hpath hsplit.symm
    exact ⟨fun e he => hafter e (List.mem_append_left _ he), hgroup⟩
  · intro result hend
    obtain ⟨entities, opening, segments, closing, hsplit, hfetched, hframes, hs⟩ :=
      yields_segments hend
    refine ⟨entities, opening, closing, segments, hsplit, hfetched, hframes, hs.begun, hs.asked, ?_⟩
    rw [List.forall_mem_append] at hframes
    rw [hsplit, journaled_append, journaled_append, journaled_of_frames hframes.1,
      journaled_of_frames hframes.2, List.nil_append, List.append_nil]
    exact hs.keys_journaled hpath (List.Subset.refl _)

namespace Sample

/-- Regions whose merges are written to a journal. -/
def noting : Settings :=
  { settings with journal := some "journal" }

/-- What a run with a journal asks, up to its end. -/
def notingTranscript : Transcript :=
  (mergeAll noting "memory" "run").transcript (World.answer Tables.store) (world twoKeys)

end Sample

theorem mergeAll_writtenAhead_sample :
    (journaled "journal" Sample.notingTranscript).map (fun e => (e.key, e.keep, e.losers.map (·.id))) =
      [("FOO", "r1", ["r2"]), ("BAR", "r3", ["r4"])] ∧
    WrittenAhead Sample.noting "memory" "run" "journal" Sample.notingTranscript :=
  ⟨by decide +kernel, mergeAll_writtenAhead rfl rfl (Program.yields_transcript _ _ _).asks⟩

end RegistryDedup
