import RegistryDedup.Proofs.Merge.Exits
import RegistryDedup.Proofs.Merge.Resume
import RegistryDedup.Proofs.Merge.Steps

/-!
# Runs on tables in memory

Around its groups a run on tables in memory has no choice: what it looks for is there or not, and
each of its fetches has the entities that there are at the time.

- `Settings.readiness`: what the look for all tables and columns of a run comes to.
- `MemoryExit`: the exits of a run on tables in memory (`truthful_memoryExit`). Once its lock and
  its journal are granted, what becomes of its groups settles its result.
-/

namespace RegistryDedup

open Interface.Environment

variable {s : Settings} {backend run : String} {policy : RetryPolicy} {h : Transcript}
  {t t' : Tables}

/-! ## Before the groups -/

/-- What the look for all tables and columns of a run comes to: the first failure, if there is
one. -/
def Settings.readiness (s : Settings) (t : Tables) : Reply Unit := do
  s.check
  forM s.tables fun x => t.checkColumns x.1 x.2

theorem truthful_checkAll {tables : List (String × List String)} {reply : Reply Unit}
    (hy : (checkAll policy tables).Yields h reply) (hf : Tables.truthful.Follows t h t') :
    reply = forM tables fun x => t.checkColumns x.1 x.2 := by
  induction tables generalizing h t with
  | nil => exact hy.2
  | cons x tables ih =>
    rw [checkAll, Program.bind_eq, Program.yields_bind] at hy
    obtain ⟨first, h₁, h₂, rfl, hcall, hy⟩ := hy
    obtain ⟨u, hf, hf'⟩ := follows_append.mp hf
    obtain ⟨hfirst, hu, -⟩ := truthful_calling hcall hf
    obtain rfl : u = t := hu
    change first = u.checkColumns x.1 x.2 at hfirst
    rw [List.forM_cons, ← hfirst]
    cases first with
    | error f => exact hy.2
    | ok _ => exact ih hy hf'

theorem truthful_preflight {reply : Reply Unit} (hy : (preflight s).Yields h reply)
    (hf : Tables.truthful.Follows t h t') : t' = t ∧ reply = s.readiness t := by
  have hchecks := (only_preflight s).yields hy
  refine ⟨hf.unchanged fun e he _ _ => truthful_quiet (hchecks e he).quiet, ?_⟩
  rw [preflight] at hy
  rw [Settings.readiness]
  cases hcheck : s.check with
  | error f =>
    rw [hcheck] at hy
    exact hy.2
  | ok _ =>
    rw [hcheck] at hy
    exact truthful_checkAll hy hf

theorem isSome_of_checkAll {tables : List (String × List String)}
    (hok : (forM tables fun x => t.checkColumns x.1 x.2) = .ok ()) :
    ∀ x ∈ tables, (t.find? x.1).isSome := by
  induction tables with
  | nil => simp
  | cons x tables ih =>
    rw [List.forM_cons] at hok
    cases hcheck : t.checkColumns x.1 x.2 with
    | error f =>
      rw [hcheck] at hok
      cases hok
    | ok _ =>
      rw [hcheck] at hok
      exact List.forall_mem_cons.mpr ⟨isSome_of_checkColumns hcheck, ih hok⟩

/-- What is looked for at the start of a run is there. -/
theorem Present.of_readiness (hok : s.readiness t = .ok ()) : Present s t := by
  have htables : ∀ x ∈ s.tables, (t.find? x.1).isSome := by
    rw [Settings.readiness] at hok
    cases hcheck : s.check with
    | error f =>
      rw [hcheck] at hok
      cases hok
    | ok _ =>
      rw [hcheck] at hok
      exact isSome_of_checkAll hok
  refine ⟨htables _ List.mem_cons_self, fun d hd => ?_⟩
  exact htables (d.table, [d.column]) (List.mem_cons_of_mem _ (List.mem_map_of_mem hd))

theorem Present.fetch (hp : Present s t) : t.fetchEntities s.entity = .ok (s.entities t) := by
  obtain ⟨u, hu⟩ := Option.isSome_iff_exists.mp hp.entity
  rw [Tables.fetchEntities, Tables.reading, hu, Settings.entities, Tables.rows_of_find? hu]

/-- A fetch has the entities that there are. -/
theorem truthful_fetch (hp : Present s t) {reply : Reply (List Entity)}
    (hy : (Run.fetchEntities policy s.entity).Yields h reply)
    (hf : Tables.truthful.Follows t h t') : t' = t ∧ reply = .ok (s.entities t) := by
  obtain ⟨hreply, ht, -⟩ := truthful_calling hy hf
  exact ⟨ht, hreply.trans hp.fetch⟩

/-! ## A whole run -/

theorem truthful_unreliable (a : Action) (t : Tables) (x : Action.interface.Answer a)
    (t' : Tables) (he : Tables.truthful a t x t') : Tables.unreliable a t x t' := by
  cases a with
  | call r =>
    obtain ⟨rfl, rfl⟩ := he
    exact .truly
  | _ => exact he

theorem GroupsExit.mayAsk {partialOf : List GroupReport → Summary} {groups : List DuplicateGroup}
    {streak : Nat} {done : List GroupReport} {result : Except Stop (List GroupReport)}
    (hc : GroupsExit s run partialOf groups streak done h result) : ∀ e ∈ h, s.MayAsk e.1 := by
  induction hc with
  | finished => simp
  | unwritten hlast => exact (asks_mergeGroup_orderly hlast.asks).mayAsk
  | gaveUp hlast _ _ => exact (asks_mergeGroup_orderly hlast.asks).mayAsk
  | next hfirst _ _ ih =>
    exact List.forall_mem_append.mpr ⟨(asks_mergeGroup_orderly hfirst.asks).mayAsk, ih⟩

/-- The exits of a run on tables in memory, with the tables afterwards. -/
inductive MemoryExit (s : Settings) (backend run : String) (t : Tables) :
    Transcript → Except Stop Summary → Tables → Prop where
  | unready {h : Transcript} {f : Failure} (hready : s.readiness t = .error f)
      (hchecks : ∀ e ∈ h, e.1.Checks) :
      MemoryExit s backend run t h
        (.error (.trouble ((Trouble.ofFailure f).within "preflight failed"))) t
  | refused {h : Transcript} {trouble : Trouble} {e : Action.interface.Exchange}
      (hready : s.readiness t = .ok ()) (he : e ∈ h) (hrefused : Refused e) :
      MemoryExit s backend run t h (.error (.trouble trouble)) t
  | merged {opening merging closing : Transcript} {groups : Except Stop (List GroupReport)}
      {t' : Tables} (hready : s.readiness t = .ok ())
      (hgroups : CandidatesExit s backend run (s.entities t) merging groups)
      (hmerging : Tables.truthful.Follows t merging t') :
      MemoryExit s backend run t (opening ++ (merging ++ closing))
        (groups.map fun reports => summarize s backend run (s.entities t).length reports
          (Grouping.build s.normalizer (s.entities t')).residuals) t'

/-- What comes after the groups on tables in memory: a look at what they left. -/
theorem truthful_closed {entities : List Entity} {groups : Except Stop (List GroupReport)}
    {result : Except Stop Summary} (hp : Present s t)
    (hc : Closed s backend run entities groups h result) (hf : Tables.truthful.Follows t h t') :
    t' = t ∧ result = groups.map fun reports => summarize s backend run entities.length reports
      (Grouping.build s.normalizer (s.entities t)).residuals := by
  cases hc with
  | stopped => exact ⟨hf, rfl⟩
  | unverified hlooking => cases (truthful_fetch hp hlooking hf).2
  | verified hlooking =>
    obtain ⟨ht, hleft⟩ := truthful_fetch hp hlooking hf
    cases hleft
    exact ⟨ht, rfl⟩

theorem truthful_memoryExit (hs : s.Foreign) {result : Except Stop Summary}
    (hy : (mergeAll s backend run).Yields h result) (hf : Tables.truthful.Follows t h t') :
    MemoryExit s backend run t h result t' := by
  have hborders : ∀ {h : Transcript} {t t' : Tables}, (∀ e ∈ h, e.1.Bordering) →
      Tables.truthful.Follows t h t' → t' = t :=
    fun hh hf => hf.unchanged fun e he _ _ => truthful_quiet (hh e he).quiet
  cases yields_runExit hy with
  | unready hpreflight =>
    obtain ⟨rfl, hready⟩ := truthful_preflight hpreflight hf
    exact .unready hready.symm ((only_preflight s).yields hpreflight)
  | @ready checking rest _ hpreflight hlocked =>
    obtain ⟨t₁, hchecked, hrest⟩ := follows_append.mp hf
    obtain ⟨rfl, hready⟩ := truthful_preflight hpreflight hchecked
    have hp := Present.of_readiness hready.symm
    cases hlocked with
    | refused hopening hrefused he =>
      obtain rfl := hborders hopening hrest
      exact .refused hready.symm (by simp [he]) hrefused
    | @opened opening rest last _ hopening hfetched hlast =>
      obtain ⟨t₂, hopened, hlocked⟩ := follows_append.mp hrest
      obtain rfl := hborders hopening hopened
      obtain ⟨t₃, hasked, hleft⟩ := follows_append.mp hlocked
      obtain rfl := hborders hlast hleft
      cases hfetched with
      | unread hfetch => cases (truthful_fetch hp hfetch hasked).2
      | @read fetching merging closing entities groups _ hfetch hgroups hclosed =>
        obtain ⟨t₄, hfetched, hread⟩ := follows_append.mp hasked
        obtain ⟨rfl, hentities⟩ := truthful_fetch hp hfetch hfetched
        cases hentities
        obtain ⟨t₅, hmerging, hclosing⟩ := follows_append.mp hread
        have halike := (follows_mayAsk hs hgroups.mayAsk (hmerging.mono truthful_unreliable)).1
        obtain ⟨rfl, rfl⟩ := truthful_closed (hp.alike halike) hclosed hclosing
        have hsplit : checking ++ (opening ++ (fetching ++ (merging ++ closing) ++ last)) =
            (checking ++ (opening ++ fetching)) ++ (merging ++ (closing ++ last)) := by
          simp only [List.append_assoc]
        rw [hsplit]
        exact .merged hready.symm hgroups hmerging

end RegistryDedup
