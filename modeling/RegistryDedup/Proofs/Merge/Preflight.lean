import RegistryDedup.Proofs.Merge.Memory

/-!
# The look at tables and columns before a run

A run looks for all tables and columns of its settings before it does anything else. On tables in
memory this look is all that is needed: a run that it refuses has only looked, and a run that passes
it never comes across a table or a column that is not there.

- `Guards`: a check that passes just where a condition holds, and otherwise says that the
  configuration is at fault.
- `Settings.WellFormed`: settings that can be served at all, as far as that can be told without a
  store. `Settings.Declared`: tables that have all that the settings name. By `guards_readiness`
  these are the conditions of the look.
- `Request.Within`: a call that uses only what is looked for. A run makes no other call, whatever it
  is answered (`only_mergeAll_within`), and where all is declared no such call fails for its names
  (`Request.Within.spares`).
- `mergeAll_preflight`: the look refuses a run or clears it.
-/

namespace RegistryDedup

open Interface.Environment

variable {s : Settings} {backend run : String} {h : Transcript} {t t' : Tables}

/-! ## Checks -/

/-- A check that passes just where a condition holds, and otherwise says that the configuration is
at fault. -/
inductive Guards (check : Reply Unit) (p : Prop) : Prop where
  | passed (hok : check = .ok ()) (hp : p)
  | refused {f : Failure} (hf : check = .error f) (hconfig : f.kind = .config) (hp : ¬ p)

namespace Guards

variable {c d : Reply Unit} {p q : Prop}

theorem ok_iff (hc : Guards c p) : c = .ok () ↔ p := by
  cases hc with
  | passed hok hp => exact iff_of_true hok hp
  | refused hf _ hp => exact iff_of_false (fun hok => nomatch hok.symm.trans hf) hp

theorem kind_eq (hc : Guards c p) {f : Failure} (hf : c = .error f) : f.kind = .config := by
  cases hc with
  | passed hok _ => cases hok.symm.trans hf
  | refused hf' hconfig _ =>
    cases hf'.symm.trans hf
    exact hconfig

theorem congr (hc : Guards c p) (hpq : p ↔ q) : Guards c q :=
  propext hpq ▸ hc

/-- One check after the other. -/
theorem and (hc : Guards c p) (hd : Guards d q) : Guards (do c; d) (p ∧ q) := by
  cases hc with
  | passed hok hp =>
    subst hok
    exact hd.congr (and_iff_right hp).symm
  | refused hf hconfig hp =>
    subst hf
    exact .refused rfl hconfig fun hboth => hp hboth.1

/-- A check of each item of a list, up to the first that is refused. -/
theorem forM {α : Type} {xs : List α} {check : α → Reply Unit} {p : α → Prop}
    (hx : ∀ x ∈ xs, Guards (check x) (p x)) : Guards (forM xs check) (∀ x ∈ xs, p x) := by
  induction xs with
  | nil => exact .passed rfl (List.forall_mem_nil _)
  | cons x xs ih =>
    rw [List.forall_mem_cons] at hx
    rw [List.forM_cons]
    exact (hx.1.and (ih hx.2)).congr List.forall_mem_cons.symm

/-- A condition under which a check is refused. -/
theorem refusing (p : Prop) [Decidable p] {f : Failure} (hf : f.kind = .config) :
    Guards (if p then .error f else .ok ()) (¬ p) := by
  split
  · next hp => exact .refused rfl hf (not_not_intro hp)
  · next hp => exact .passed rfl hp

end Guards

/-! ## What is looked for -/

/-- Settings that can be served, as far as that can be told without a store. -/
structure Settings.WellFormed (s : Settings) : Prop where
  entity : ∀ name ∈ s.entity.table :: s.entity.columns, isIdentifier name
  dependents : s.dependents ≠ []
  dependentNames : ∀ name ∈ s.dependentNames, isIdentifier name
  concurrency : s.concurrency ≠ 0

/-- A table that has some columns. -/
def Tables.Declares (t : Tables) (table : String) (columns : List String) : Prop :=
  ∃ u, t.find? table = some u ∧ ∀ column ∈ columns, column ∈ u.columns

/-- Tables that have all tables and columns of some settings. -/
def Settings.Declared (s : Settings) (t : Tables) : Prop :=
  ∀ x ∈ s.tables, t.Declares x.1 x.2

theorem guards_checkIdentifiers (names : List String) :
    Guards (checkIdentifiers names) (∀ name ∈ names, isIdentifier name) := by
  induction names with
  | nil => exact .passed rfl (List.forall_mem_nil _)
  | cons name names ih =>
    have hname : Guards (checkIdentifier name) (isIdentifier name) := by
      rw [checkIdentifier]
      split
      · next hname => exact .passed rfl hname
      · next hname => exact .refused rfl rfl hname
    exact (hname.and ih).congr (by rw [List.forall_mem_cons])

theorem guards_check (s : Settings) : Guards s.check s.WellFormed := by
  have hsteps : s.check = (checkIdentifiers (s.entity.table :: s.entity.columns) >>= fun _ =>
      (if s.dependents = [] then .error .noDependents else .ok ()) >>= fun _ =>
      checkIdentifiers s.dependentNames >>= fun _ =>
      if s.concurrency = 0 then .error .noConcurrency else .ok ()) := by
    rw [Settings.check]
    simp only [List.isEmpty_iff]
    split <;> rfl
  rw [hsteps]
  have hconcurrency := Guards.refusing (s.concurrency = 0) (f := .noConcurrency) rfl
  have hdependents := Guards.refusing (s.dependents = []) (f := .noDependents) rfl
  refine ((guards_checkIdentifiers _).and
    (hdependents.and ((guards_checkIdentifiers _).and hconcurrency))).congr ?_
  exact ⟨fun ⟨he, hd, hn, hc⟩ => ⟨he, hd, hn, hc⟩, fun ⟨he, hd, hn, hc⟩ => ⟨he, hd, hn, hc⟩⟩

theorem guards_checkColumns (t : Tables) (table : String) (columns : List String) :
    Guards (t.checkColumns table columns) (t.Declares table columns) := by
  rw [Tables.checkColumns, Tables.reading, Tables.Declares]
  cases hu : t.find? table with
  | none => exact .refused rfl rfl (by simp)
  | some u =>
    dsimp only
    split
    · next hnone => exact .passed rfl ⟨u, rfl, by simpa using hnone⟩
    · next hsome =>
      refine .refused rfl rfl ?_
      rintro ⟨_, ⟨⟩, hcolumns⟩
      exact hsome (by simpa using hcolumns)

/-- The look for tables and columns passes just where the settings can be served and the tables have
all that they name. -/
theorem guards_readiness (s : Settings) (t : Tables) :
    Guards (s.readiness t) (s.WellFormed ∧ s.Declared t) :=
  (guards_check s).and (.forM fun x _ => guards_checkColumns t x.1 x.2)

theorem Tables.Declares.alike {table : String} {columns : List String}
    (hd : t.Declares table columns) (ha : Tables.Alike t t') : t'.Declares table columns := by
  rw [← (guards_checkColumns t' table columns).ok_iff, checkColumns_alike ha]
  exact (guards_checkColumns t table columns).ok_iff.mpr hd

theorem Tables.Declares.find? {table : String} {columns : List String}
    (hd : t.Declares table columns) : ∃ u, t.find? table = some u :=
  hd.imp fun _ hu => hu.1

theorem Settings.Declared.alike (hd : s.Declared t) (ha : Tables.Alike t t') : s.Declared t' :=
  fun x hx => (hd x hx).alike ha

theorem Settings.Declared.entity (hd : s.Declared t) : ∃ u, t.find? s.entity.table = some u :=
  (hd _ List.mem_cons_self).find?

theorem Settings.Declared.dependent (hdecl : s.Declared t) {d : Dependent} (hd : d ∈ s.dependents) :
    ∃ u, t.find? d.table = some u :=
  (hdecl (d.table, [d.column]) (List.mem_cons_of_mem _ (List.mem_map_of_mem hd))).find?

/-! ## What a run calls -/

/-- A call that uses only tables and columns that some settings name. -/
inductive Request.Within (s : Settings) : Request → Prop where
  | checkColumns {x : String × List String} (hx : x ∈ s.tables) : Within s (.checkColumns x.1 x.2)
  | fetchEntities : Within s (.fetchEntities s.entity)
  | countReferences {d : Dependent} (hd : d ∈ s.dependents) (value : String) :
      Within s (.countReferences d.table d.column value)
  | repoint {d : Dependent} (hd : d ∈ s.dependents) (source target : String) :
      Within s (.repoint d.table d.column source target)
  | deleteId (id : String) : Within s (.deleteIds s.entity.table s.entity.idColumn [id])
  | merge (key : String) (selection : Selection) : Within s (.merge (s.plan key selection))

/-- An action that is no call, or a call that uses only what some settings name. -/
def Action.Within (s : Settings) (a : Action) : Prop :=
  ∀ r, a = .call r → r.Within s

theorem Request.Within.action {r : Request} (hr : r.Within s) : (Action.call r).Within s := by
  rintro _ ⟨⟩
  exact hr

theorem Action.Serves.within {g : DuplicateGroup} {a : Action} (ha : a.Serves s g) :
    a.Within s := by
  cases ha with
  | counting ha =>
    rcases ha with ⟨others, rfl⟩ | ⟨job, hjob, rfl⟩
    · rintro _ ⟨⟩
    · exact (Request.Within.countReferences (mem_countJobs hjob).2 job.id).action
  | noting ha => rcases ha with rfl | ⟨path, entry, rfl⟩ <;> rintro _ ⟨⟩
  | merging selection => exact (Request.Within.merge g.key selection).action
  | moving ha =>
    obtain ⟨d, hd, l, -, rfl⟩ := ha
    exact (Request.Within.repoint hd l _).action
  | deleting ha =>
    obtain ⟨l, -, rfl⟩ := ha
    exact (Request.Within.deleteId l).action

theorem only_checkAll_within {tables : List (String × List String)} (htables : tables ⊆ s.tables)
    (policy : RetryPolicy) : (checkAll policy tables).Only (Action.Within s) := by
  induction tables with
  | nil => trivial
  | cons x tables ih =>
    obtain ⟨hx, htables⟩ := List.cons_subset.mp htables
    refine (Run.only_calling.mono ?_).bind fun reply => ?_
    · rintro a rfl
      exact (Request.Within.checkColumns hx).action
    · cases reply with
      | error f => trivial
      | ok _ => exact ih htables

theorem only_preflight_within (s : Settings) : (preflight s).Only (Action.Within s) := by
  rw [preflight]
  split
  · trivial
  · exact only_checkAll_within (List.Subset.refl _) _

theorem only_mergeJournaled_within (s : Settings) (backend run : String) :
    (mergeJournaled s backend run).Only (Action.Within s) := by
  have hfetched : (mergeFetched s backend run).Only (Action.Within s) :=
    only_mergeFetched Request.Within.fetchEntities.action
      fun g => (only_mergeGroup s run g).mono fun _ ha => ha.within
  rw [mergeJournaled]
  split
  · exact hfetched
  · refine ⟨by rintro _ ⟨⟩, fun x => ?_⟩
    cases x with
    | error e => trivial
    | ok _ => exact hfetched

/-- Whatever it is answered, a run calls for nothing but what it looks for at its start. -/
theorem only_mergeAll_within (s : Settings) (backend run : String) :
    (mergeAll s backend run).Only (Action.Within s) := by
  refine (only_preflight_within s).bind fun reply => ?_
  cases reply with
  | error f => trivial
  | ok _ =>
    change (mergeLocked s backend run).Only (Action.Within s)
    rw [mergeLocked]
    split
    · exact only_mergeJournaled_within s backend run
    · refine ⟨by rintro _ ⟨⟩, fun x => ?_⟩
      cases x with
      | error f => trivial
      | ok _ =>
        refine (only_mergeJournaled_within s backend run).bind fun result => ?_
        exact ⟨by rintro _ ⟨⟩, fun _ => trivial⟩

/-! ## What is answered -/

/-- Where all is declared, a call within some settings does not fail for its configuration. -/
theorem Request.Within.kind_ne_config {r : Request} (hr : r.Within s) (hd : s.Declared t)
    {f : Failure} (hf : (Tables.call r t).1 = .error f) : f.kind ≠ .config := by
  cases hr with
  | checkColumns hx =>
    have hok := (guards_checkColumns t _ _).ok_iff.mpr (hd _ hx)
    cases hok.symm.trans hf
  | fetchEntities =>
    obtain ⟨u, hu⟩ := hd.entity
    change t.fetchEntities s.entity = _ at hf
    rw [Tables.fetchEntities, Tables.reading, hu] at hf
    cases hf
  | countReferences hdep value =>
    obtain ⟨u, hu⟩ := hd.dependent hdep
    change t.countReferences _ _ value = _ at hf
    rw [Tables.countReferences, Tables.reading, hu] at hf
    split at hf <;> cases hf
    exact FailureKind.noConfusion
  | repoint hdep source target =>
    obtain ⟨u, hu⟩ := hd.dependent hdep
    change (t.repoint _ _ source target).1 = _ at hf
    rw [Tables.repoint, Tables.changing, hu] at hf
    cases hf
  | deleteId id =>
    obtain ⟨u, hu⟩ := hd.entity
    change (t.deleteIds s.entity.table _ [id]).1 = _ at hf
    rw [Tables.deleteIds] at hf
    split at hf
    · cases hf
      exact FailureKind.noConfusion
    · rw [Tables.changing, hu] at hf
      cases hf
  | merge key selection => cases hf

/-- A call within some settings leaves the columns of all tables. -/
theorem Request.Within.alike {r : Request} (hr : r.Within s) (t : Tables) :
    Tables.Alike t (Tables.call r t).2 := by
  cases hr with
  | repoint _ source target => exact Tables.alike_repoint t _ _ source target
  | deleteId id => exact Tables.alike_deleteIds t _ _ id
  | _ => exact .refl t

/-- Actions within some settings leave the columns of all tables. -/
theorem Action.Within.alike {a : Action} (ha : a.Within s) {x : Action.interface.Answer a}
    (he : Tables.truthful a t x t') : Tables.Alike t t' := by
  cases a with
  | call r =>
    obtain ⟨-, rfl⟩ := he
    exact (ha r rfl).alike t
  | _ =>
    obtain rfl := he
    exact .refl _

/-- Where all is declared, nothing within some settings fails for its configuration. -/
theorem follows_spared (hh : ∀ e ∈ h, e.1.Within s) (hd : s.Declared t)
    (hf : Tables.truthful.Follows t h t') {r : Request} {f : Failure}
    (he : ⟨Action.call r, Attempt.answered (.error f)⟩ ∈ h) : f.kind ≠ .config := by
  induction h generalizing t with
  | nil => cases he
  | cons e h ih =>
    rw [List.forall_mem_cons] at hh
    obtain ⟨u, hfirst, hf⟩ := hf
    rcases List.mem_cons.mp he with rfl | he
    · exact (hh.1 r rfl).kind_ne_config hd (Attempt.answered.inj hfirst.1).symm
    · exact ih hh.2 (hd.alike (hh.1.alike hfirst)) hf he

/-! ## A whole run -/

/-- An error that says that the configuration is at fault. -/
def ConfigError (result : Except Stop Summary) : Prop :=
  ∃ f, f.kind = .config ∧
    result = .error (.trouble ((Trouble.ofFailure f).within "preflight failed"))

/-- What the look at the start of a run decides. -/
structure PreflightDecides (s : Settings) (t : Tables) (h : Transcript)
    (result : Except Stop Summary) (t' : Tables) : Prop where
  /-- Settings that cannot be served are refused without any call. -/
  unasked : ¬ s.WellFormed → h = []
  /-- A run that is refused has only looked for columns. -/
  refused : ¬ (s.WellFormed ∧ s.Declared t) →
    ConfigError result ∧ (∀ e ∈ h, e.1.Checks) ∧ t' = t
  passed : s.WellFormed → s.Declared t →
    ∃ checking rest, h = checking ++ rest ∧ (preflight s).Yields checking (.ok ())
  /-- A run that is cleared never meets an error of the configuration. -/
  spared : ∀ checking rest, h = checking ++ rest → (preflight s).Yields checking (.ok ()) →
    ∀ (r : Request) (f : Failure), ⟨Action.call r, Attempt.answered (.error f)⟩ ∈ h →
      f.kind ≠ .config

/-- Settings that cannot be served make a run end without any action. -/
theorem mergeAll_unasked {result : Except Stop Summary} (hill : ¬ s.WellFormed)
    (hy : (mergeAll s backend run).Yields h result) : h = [] := by
  cases guards_check s with
  | passed _ hwell => exact absurd hwell hill
  | refused hcheck _ _ =>
    rw [mergeAll, preflight, hcheck] at hy
    exact hy.1

theorem declared_of_preflight {checking rest : Transcript}
    (hy : (preflight s).Yields checking (.ok ()))
    (hf : Tables.truthful.Follows t (checking ++ rest) t') : s.WellFormed ∧ s.Declared t := by
  obtain ⟨u, hchecked, -⟩ := follows_append.mp hf
  exact (guards_readiness s t).ok_iff.mp (truthful_preflight hy hchecked).2.symm

/-- The look at the start of a run refuses all that the tables do not have, and nothing else. -/
theorem mergeAll_preflight {result : Except Stop Summary}
    (hy : (mergeAll s backend run).Yields h result) (hf : Tables.truthful.Follows t h t') :
    PreflightDecides s t h result t' where
  unasked hill := mergeAll_unasked hill hy
  refused hnot := by
    cases yields_runExit hy with
    | unready hpreflight =>
      obtain ⟨ht, hready⟩ := truthful_preflight hpreflight hf
      exact ⟨⟨_, (guards_readiness s t).kind_eq hready.symm, rfl⟩,
        (only_preflight s).yields hpreflight, ht⟩
    | ready hpreflight _ => exact absurd (declared_of_preflight hpreflight hf) hnot
  passed hwell hdeclared := by
    cases yields_runExit hy with
    | unready hpreflight =>
      have hok := (guards_readiness s t).ok_iff.mpr ⟨hwell, hdeclared⟩
      cases (truthful_preflight hpreflight hf).2.trans hok
    | ready hpreflight _ => exact ⟨_, _, rfl, hpreflight⟩
  spared := by
    rintro checking rest rfl hpreflight r f he
    have hwithin := (only_mergeAll_within s backend run).yields hy
    exact follows_spared hwithin (declared_of_preflight hpreflight hf).2 hf he

/-- A run that is refused leaves the world as it is: no lock is taken, and no journal is begun. -/
theorem perform_refused {w : World Tables} (hnot : ¬ (s.WellFormed ∧ s.Declared w.state)) :
    (World.perform Tables.store (mergeAll s backend run) w).2 = w := by
  have hy := Program.yields_transcript (World.answer Tables.store) (mergeAll s backend run) w
  have hf := Program.follows_transcript World.state truthful_answer (mergeAll s backend run) w
  obtain ⟨-, hchecks, -⟩ := (mergeAll_preflight hy hf).refused hnot
  let env : Action.interface.Environment (World Tables) :=
    fun a v x v' => World.answer Tables.store a v = (x, v')
  have hfollows : env.Follows w _ _ :=
    Program.follows_transcript id (fun _ _ => rfl) (mergeAll s backend run) w
  refine hfollows.unchanged fun e he v v' hstep => ?_
  obtain ⟨table, columns, hcheck⟩ := hchecks e he
  obtain ⟨a, x⟩ := e
  obtain rfl : a = _ := hcheck
  exact (congrArg Prod.snd hstep).symm

namespace Sample

/-- The column of the dependent is not there. -/
def misnamed : Settings :=
  { settings with dependents := [⟨"projects", "owner_id"⟩], lockFile := some "/lock" }

end Sample

/-- The run has looked for its columns, and it has not come to its lock. -/
theorem mergeAll_preflight_misnamed :
    Sample.calls ((mergeAll Sample.misnamed "memory" "run").transcript
      (World.answer Tables.store) (Sample.world Sample.tables)) =
        ["check_columns regions id,name", "check_columns projects owner_id"] ∧
    (World.perform Tables.store (mergeAll Sample.misnamed "memory" "run")
      (Sample.world Sample.tables)).1 =
        .error (.trouble ⟨["preflight failed"], .store (.unknownColumns "projects" ["owner_id"])⟩) ∧
    PreflightDecides Sample.misnamed Sample.tables
      ((mergeAll Sample.misnamed "memory" "run").transcript (World.answer Tables.store)
        (Sample.world Sample.tables))
      (World.perform Tables.store (mergeAll Sample.misnamed "memory" "run")
        (Sample.world Sample.tables)).1
      (World.perform Tables.store (mergeAll Sample.misnamed "memory" "run")
        (Sample.world Sample.tables)).2.state :=
  ⟨by decide +kernel, by decide +kernel, mergeAll_preflight (Program.yields_transcript _ _ _)
    (Program.follows_transcript World.state truthful_answer _ (Sample.world Sample.tables))⟩

end RegistryDedup
