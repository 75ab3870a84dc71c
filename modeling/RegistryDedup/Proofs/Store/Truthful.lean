import RegistryDedup.Proofs.Run.Calls
import RegistryDedup.Proofs.Store.Tables
import RegistryDedup.Run.World

/-!
# Tables that answer for themselves

A store in memory gives each call the answer of its tables. Calls may fail, but only if the tables
say so, and a failure that is worth another attempt has changed nothing. Of a call with all its
attempts therefore nothing is left but its first one.

- `Tables.truthful`: each call is answered by the tables. Lock and journal may fail as they please.
- `Tables.not_changes_of_retryable`: only a call that changes nothing can fail in a way that is
  worth another attempt.
- `truthful_calling`: a call with all its attempts has the reply of the tables, and leaves the
  tables that one attempt leaves.
- `countReferences_eq_ok`: a count that is answered is the number of rows with the text.
-/

namespace RegistryDedup

open Interface.Environment

variable {policy : RetryPolicy} {operation : String} {h : Transcript} {t t' : Tables}

/-! ## Failures that are worth another attempt -/

namespace Tables

/-- A change fails where there is no such table, or where it fails on the table. -/
theorem changing_eq_error {α : Type} {name : String} {change : Table → Reply α × Tables}
    {f : Failure} (hf : (t.changing name change).1 = .error f) :
    f = .unknownTable name ∨ ∃ u, t.find? name = some u ∧ (change u).1 = .error f := by
  rw [changing] at hf
  cases hu : t.find? name with
  | none =>
    rw [hu] at hf
    cases hf
    exact .inl rfl
  | some u =>
    rw [hu] at hf
    exact .inr ⟨u, rfl, hf⟩

/-- An answer is given where there is such a table, and it is that of the table. -/
theorem reading_eq_ok {α : Type} {name : String} {read : Table → Reply α} {a : α} :
    t.reading name read = .ok a ↔ ∃ u, t.find? name = some u ∧ read u = .ok a := by
  rw [reading]
  cases t.find? name with
  | none => exact iff_of_false (fun h => nomatch h) fun ⟨_, h, _⟩ => nomatch h
  | some u => exact ⟨fun h => ⟨u, rfl, h⟩, fun ⟨_, hu, h⟩ => Option.some.inj hu ▸ h⟩

theorem patchRows_not_retryable {name : String} {patch : Row} {places : List Nat} {u : Table}
    {f : Failure} (hf : (patchRows name patch places u).1 = .error f) : ¬ f.isRetryable := by
  induction places generalizing u with
  | nil => cases hf
  | cons i places ih =>
    rw [patchRows] at hf
    cases hrow : u.rows[i]? with
    | none =>
      rw [hrow] at hf
      exact ih hf
    | some row =>
      rw [hrow] at hf
      dsimp only at hf
      cases hclash : u.clash? (row.patched patch) (some i) with
      | none =>
        rw [hclash] at hf
        exact ih hf
      | some clash =>
        rw [hclash] at hf
        cases hf
        exact Bool.false_ne_true

/-- A row is added, or it is refused and nothing changes: where there is no such table, or where the
row would repeat a text. -/
theorem insert_cases (t : Tables) (table : String) (row : Row) :
    (∃ after, t.insert table row = (.ok (), after) ∧ row ∈ after.rows table) ∨
    t.insert table row = (.error (.unknownTable table), t) ∨
    ∃ u column value, t.find? table = some u ∧ u.clash? row none = some (column, value) ∧
      t.insert table row = (.error (.duplicateValue table column value), t) := by
  rw [insert, changing]
  cases hu : t.find? table with
  | none => exact .inr (.inl rfl)
  | some u =>
    dsimp only
    cases hclash : u.clash? row none with
    | none =>
      refine .inl ⟨_, rfl, ?_⟩
      rw [rows_wrote, rows_put, if_pos rfl]
      exact List.mem_append_right _ List.mem_cons_self
    | some clash =>
      obtain ⟨column, value⟩ := clash
      exact .inr (.inr ⟨u, column, value, rfl, hclash, rfl⟩)

theorem insert_not_retryable {table : String} {row : Row} {f : Failure}
    (hf : (t.insert table row).1 = .error f) : ¬ f.isRetryable := by
  rcases insert_cases t table row with ⟨after, heq, -⟩ | heq | ⟨u, column, value, -, -, heq⟩
  · rw [heq] at hf
    cases hf
  · rw [heq] at hf
    cases hf
    exact Bool.false_ne_true
  · rw [heq] at hf
    cases hf
    exact Bool.false_ne_true

theorem fireAll_not_retryable {owner : String} {triggers : List DetailTrigger} {f : Failure}
    (hf : (fireAll owner triggers t).1 = .error f) : ¬ f.isRetryable := by
  induction triggers generalizing t with
  | nil => cases hf
  | cons trigger triggers ih =>
    rw [fireAll] at hf
    split at hf
    · exact ih hf
    · next hfire =>
      cases hf
      have hfired := congrArg Prod.fst hfire
      rw [fire] at hfired
      rcases changing_eq_error hfired with rfl | ⟨u, -, hfired⟩
      · exact Bool.false_ne_true
      · -- A trigger whose owner has a detail does not fail; any other fails as its insert does.
        split at hfired
        · cases hfired
        · dsimp only at hfired
          split at hfired
          · cases hfired
          · next hinsert =>
            cases hfired
            exact insert_not_retryable (congrArg Prod.fst hinsert)

theorem updateById_not_retryable {table idColumn id : String} {patch : Row} {f : Failure}
    (hf : (t.updateById table idColumn id patch).1 = .error f) : ¬ f.isRetryable := by
  rw [updateById] at hf
  rcases changing_eq_error hf with rfl | ⟨u, -, hf⟩
  · exact Bool.false_ne_true
  · dsimp only at hf
    split at hf
    · next hpatch =>
      cases hf
      exact patchRows_not_retryable (congrArg Prod.fst hpatch)
    · split at hf
      · cases hf
      · split at hf
        · cases hf
        · next hfire =>
          cases hf
          exact fireAll_not_retryable (congrArg Prod.fst hfire)

theorem deleteIds_not_retryable {table column : String} {ids : List String} {f : Failure}
    (hf : (t.deleteIds table column ids).1 = .error f) : ¬ f.isRetryable := by
  rw [deleteIds] at hf
  split at hf
  · cases hf
    exact Bool.false_ne_true
  · rcases changing_eq_error hf with rfl | ⟨u, -, hf⟩
    · exact Bool.false_ne_true
    · cases hf

/-- A move fails only where there is no such table, and leaves all as it is. -/
theorem repoint_eq_error {table column source target : String} {f : Failure}
    (hf : (t.repoint table column source target).1 = .error f) :
    f = .unknownTable table ∧ (t.repoint table column source target).2 = t := by
  rw [repoint, changing] at hf ⊢
  cases hu : t.find? table with
  | none =>
    rw [hu] at hf
    cases hf
    exact ⟨rfl, rfl⟩
  | some u =>
    rw [hu] at hf
    cases hf

/-- Only a call that changes nothing can fail in a way that is worth another attempt. -/
theorem not_changes_of_retryable {r : Request} {f : Failure} (hf : (call r t).1 = .error f)
    (hretry : f.isRetryable) : ¬ r.Changes := by
  intro hchanges
  cases r with
  | repoint table column source target =>
    rw [(repoint_eq_error hf).1] at hretry
    exact Bool.false_ne_true hretry
  | deleteIds table column ids => exact deleteIds_not_retryable hf hretry
  | deleteWhere table column value => exact deleteIds_not_retryable hf hretry
  | updateById table idColumn id patch => exact updateById_not_retryable hf hretry
  | insertRow table row =>
    change (t.insertRow table row).1 = _ at hf
    rw [insertRow] at hf
    split at hf
    · cases hf
    · next hinsert =>
      cases hf
      exact insert_not_retryable (congrArg Prod.fst hinsert) hretry
  | merge plan => cases hf
  | _ => exact hchanges

/-- A count that is answered is the number of rows with the text. -/
theorem countReferences_eq_ok {table column value : String} {n : Nat}
    (hcount : t.countReferences table column value = .ok n) :
    n = (t.rows table).countP (·.has column value) := by
  rw [countReferences] at hcount
  split at hcount
  · cases hcount
  · obtain ⟨u, hu, hn⟩ := reading_eq_ok.mp hcount
    rw [rows_of_find? hu]
    exact (Except.ok.inj hn).symm

/-- A call that is only to look leaves the tables as they are. -/
theorem call_of_not_changes {r : Request} (hr : ¬ r.Changes) : (call r t).2 = t := by
  cases r <;> first | rfl | exact absurd trivial hr

end Tables

/-! ## The environment -/

/-- Each call is answered by the tables. Lock and journal may fail as they please. -/
def Tables.truthful : Action.interface.Environment Tables
  | .call r, t, x, t' => x = Attempt.answered (Tables.call r t).1 ∧ t' = (Tables.call r t).2
  | _, t, _, t' => t' = t

/-- A store in memory answers so. -/
theorem truthful_answer (a : Action) (w : World Tables) :
    Tables.truthful a w.state (World.answer Tables.store a w).1
      (World.answer Tables.store a w).2.state := by
  cases a with
  | call r => exact ⟨rfl, rfl⟩
  | pick others => rfl
  | now => rfl
  | releaseLock path => rfl
  | acquireLock path =>
    rw [World.answer]
    split <;> rfl
  | openJournal path =>
    rw [World.answer]
    split <;> rfl
  | appendJournal path entry =>
    rw [World.answer]
    split <;> rfl

/-- What changes nothing leaves the tables as they are. -/
theorem truthful_quiet {a : Action} (ha : a.Quiet) {x : Action.interface.Answer a}
    (he : Tables.truthful a t x t') : t' = t := by
  cases a with
  | call r =>
    obtain ⟨-, rfl⟩ := he
    exact Tables.call_of_not_changes ha
  | _ => exact he

/-- All attempts of a call have the answer of the tables at its start, and so has the call. -/
theorem truthful_calling {r : Request} {reply : Reply r.Answer}
    (hy : (Run.calling policy operation r).Yields h reply) (hf : Tables.truthful.Follows t h t') :
    reply = (Tables.call r t).1 ∧ t' = (Tables.call r t).2 ∧
      h ≠ [] ∧ ∀ e ∈ h, e = ⟨Action.call r, Attempt.answered (Tables.call r t).1⟩ := by
  obtain ⟨fails, x, rfl, rfl, hfails, -⟩ := Run.yields_calling hy
  obtain ⟨u, hfirst, hlast⟩ := follows_append.mp hf
  -- The attempts before the last one have failed without changing anything.
  have hstill : ∀ e ∈ fails, ∀ v v', Tables.truthful e.1 v e.2 v' → v' = v := by
    intro e he v v' hstep
    obtain ⟨y, f, rfl, hreply, hretry⟩ := hfails e he
    obtain ⟨hy, rfl⟩ := hstep
    change y = _ at hy
    rw [hy] at hreply
    exact Tables.call_of_not_changes (Tables.not_changes_of_retryable hreply hretry)
  obtain rfl := hfirst.unchanged hstill
  rw [follows_singleton] at hlast
  obtain ⟨hx, hend⟩ := hlast
  change x = _ at hx
  refine ⟨by rw [hx]; rfl, hend, by simp, ?_⟩
  intro e he
  rcases List.mem_append.mp he with he | he
  · have hanswer := hfirst.answers hstill e he
    obtain ⟨y, f, rfl, -⟩ := hfails e he
    rw [show y = _ from hanswer.1]
  · rw [List.mem_singleton.mp he, hx]

end RegistryDedup
