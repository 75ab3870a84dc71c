import Mathlib.Data.List.Infix
import RegistryDedup.Postgrest.Client
import RegistryDedup.Proofs.Transcript

/-!
# A table read page by page

A server cuts each page as short as it likes, and may report the number of rows with any of them.
The rows so far are those before the next offset, and each page moves the offset on, so the scan
ends when the offset has reached the end of the table.

- `collectPages_answered`: how pages are fetched makes no difference to which pages are asked for.
- `Served`: what a server may reply.
- `Scan`: the requests of a scan and its result, one page at a time. `scan_collectFrom`: the pages
  of such a server are scanned so.
- `collectPages_whole`: the whole scan.
-/

namespace RegistryDedup.Postgrest

variable {ρ ε σ : Type} {I : Interface}

/-! ## Requests for pages -/

/-- A request for so many rows from an offset on. -/
structure PageRequest where
  offset : Nat
  limit : Nat
  deriving DecidableEq, Repr

/-- Requests for pages, each of which may fail. -/
abbrev pages (ρ ε : Type) : Interface :=
  ⟨PageRequest, fun _ => Except ε (Page ρ)⟩

/-- A page asked for. -/
def askPage (offset limit : Nat) : Program (pages ρ ε) (Except ε (Page ρ)) :=
  .perform (I := pages ρ ε) ⟨offset, limit⟩

/-- How pages are fetched makes no difference to which pages are asked for. -/
theorem collectPages_answered (fetch : Nat → Nat → Program I (Except ε (Page ρ)))
    (pageSize requests : Nat) : collectPages fetch pageSize requests =
      (collectPages (I := pages ρ ε) askPage pageSize requests).answered
        fun q : PageRequest => fetch q.offset q.limit := by
  unfold collectPages
  generalize ([] : List ρ) = rows
  generalize (none : Option Nat) = total
  induction requests generalizing rows total with
  | zero => rfl
  | succ requests ih =>
    refine congrArg (Program.bind (fetch rows.length pageSize)) (funext fun reply => ?_)
    cases reply with
    | error f => rfl
    | ok page =>
      dsimp only [Program.bind]
      split
      · rfl
      · split
        · rfl
        · exact ih _ _

/-- The requests for pages of a run, each with its reply. -/
def pageVisits (fetch : Nat → Nat → Program I (Except ε (Page ρ)))
    (answer : (q : I.Ask) → σ → I.Answer q × σ) (pageSize requests : Nat) (s : σ) :
    List (pages ρ ε).Exchange :=
  (collectPages (I := pages ρ ε) askPage pageSize requests).transcript
    (fun (q : PageRequest) s => (fetch q.offset q.limit).run answer s) s

/-! ## Scans -/

/-- The reply of a server with some rows: a number of them from the offset on, no more than it was
asked for, and at least one unless there are no more. The page may report how many there are. -/
def Served (rows : List ρ) (v : (pages ρ ε).Exchange) : Prop :=
  ∃ page k, v.2 = .ok page ∧ page.rows = (rows.drop v.1.offset).take k ∧ k ≤ v.1.limit ∧
    (v.1.offset < rows.length → 1 ≤ k) ∧ (page.total = none ∨ page.total = some rows.length)

/-- The requests of a scan of some rows from an offset on, each with its reply, and the result.
`known` tells whether the number of rows was reported before. -/
inductive Scan (rows : List ρ) (pageSize : Nat) :
    (known : Bool) → (offset : Nat) → List (pages ρ ε).Exchange → Except ε (List ρ) → Prop where
  | failed {known : Bool} {offset : Nat} (f : ε) :
      Scan rows pageSize known offset [⟨⟨offset, pageSize⟩, .error f⟩] (.error f)
  /-- With the last page all rows are there. It has none itself if their number was not reported. -/
  | reached {known : Bool} {offset : Nat} (page : Page ρ)
      (hend : rows.length ≤ offset + page.rows.length) :
      Scan rows pageSize known offset [⟨⟨offset, pageSize⟩, .ok page⟩] (.ok rows)
  | more {known : Bool} {offset : Nat} (page : Page ρ) {visits : List (pages ρ ε).Exchange}
      {result : Except ε (List ρ)} (hrows : 0 < page.rows.length)
      (hwithin : offset + page.rows.length ≤ rows.length)
      (hopen : (known || page.total.isSome) = true → offset + page.rows.length < rows.length)
      (hrest : Scan rows pageSize (known || page.total.isSome) (offset + page.rows.length) visits
        result) :
      Scan rows pageSize known offset (⟨⟨offset, pageSize⟩, .ok page⟩ :: visits) result

/-- A reply that reports how many rows there are. -/
def Reports (v : (pages ρ ε).Exchange) : Prop :=
  ∃ page, v.2 = .ok page ∧ page.total.isSome = true

/-- A page with which all rows are there. -/
def Reaches (rows : List ρ) (v : (pages ρ ε).Exchange) : Prop :=
  ∃ page, v.2 = .ok page ∧ rows.length ≤ v.1.offset + page.rows.length

theorem singleton_eq_append {α : Type} {x y : α} {before after : List α}
    (h : [x] = before ++ y :: after) : before = [] ∧ y = x ∧ after = [] := by
  rcases List.append_eq_singleton_iff.mp h.symm with ⟨rfl, hlast⟩ | ⟨-, hnil⟩
  · obtain ⟨rfl, rfl⟩ := List.cons.inj hlast
    exact ⟨rfl, rfl, rfl⟩
  · cases hnil

namespace Scan

variable {rows : List ρ} {pageSize offset : Nat} {known : Bool}
  {visits before after : List (pages ρ ε).Exchange} {v : (pages ρ ε).Exchange}
  {result : Except ε (List ρ)}

/-- Each request but the last one gets at least one row. -/
theorem length_le (h : Scan rows pageSize known offset visits result)
    (hoffset : offset ≤ rows.length) : visits.length ≤ rows.length - offset + 1 := by
  induction h with
  | failed f => exact Nat.le_add_left 1 _
  | reached page hend => exact Nat.le_add_left 1 _
  | more page hrows hwithin hopen hrest ih =>
    have hfew := ih hwithin
    rw [List.length_cons]
    omega

theorem head? (h : Scan rows pageSize known offset visits result) :
    visits.head?.map (·.1.offset) = some offset := by
  cases h <;> rfl

theorem offset_le (h : Scan rows pageSize known offset visits result) :
    ∀ v ∈ visits, offset ≤ v.1.offset := by
  induction h with
  | failed f => simp
  | reached page hend => simp
  | more page hrows hwithin hopen hrest ih =>
    rw [List.forall_mem_cons]
    exact ⟨Nat.le_refl _, fun v hv => (Nat.le_add_right _ _).trans (ih v hv)⟩

theorem increasing (h : Scan rows pageSize known offset visits result) :
    (visits.map (·.1.offset)).Pairwise (· < ·) := by
  induction h with
  | failed f => exact List.pairwise_singleton _ _
  | reached page hend => exact List.pairwise_singleton _ _
  | more page hrows hwithin hopen hrest ih =>
    rw [List.map_cons, List.pairwise_cons, List.forall_mem_map]
    exact ⟨fun v hv => (Nat.lt_add_of_pos_right hrows).trans_le (hrest.offset_le v hv), ih⟩

theorem limit_eq (h : Scan rows pageSize known offset visits result) :
    ∀ v ∈ visits, v.1.limit = pageSize := by
  induction h with
  | failed f => simp
  | reached page hend => simp
  | more page hrows hwithin hopen hrest ih =>
    rw [List.forall_mem_cons]
    exact ⟨rfl, ih⟩

/-- Where no request fails, all rows are there. -/
theorem whole (h : Scan rows pageSize known offset visits result)
    (hok : ∀ v ∈ visits, ∃ page, v.2 = .ok page) : result = .ok rows := by
  induction h with
  | failed f =>
    obtain ⟨page, hpage⟩ := hok _ List.mem_cons_self
    cases hpage
  | reached page hend => rfl
  | more page hrows hwithin hopen hrest ih =>
    exact ih fun v hv => hok v (List.mem_cons_of_mem _ hv)

/-- The first request that fails is the last one. -/
theorem failure {f : ε} (h : Scan rows pageSize known offset visits result)
    (hvisits : visits = before ++ v :: after) (hv : v.2 = .error f) :
    after = [] ∧ result = .error f := by
  induction h generalizing before with
  | failed f' =>
    obtain ⟨-, rfl, rfl⟩ := singleton_eq_append hvisits
    cases hv
    exact ⟨rfl, rfl⟩
  | reached page hend =>
    obtain ⟨-, rfl, rfl⟩ := singleton_eq_append hvisits
    cases hv
  | more page hrows hwithin hopen hrest ih =>
    rcases List.cons_eq_append_iff.mp hvisits with ⟨-, hfirst⟩ | ⟨before', -, hrest⟩
    · obtain ⟨rfl, -⟩ := List.cons.inj hfirst
      cases hv
    · exact ih hrest

/-- A request with which all rows that were reported are there is the last one. -/
theorem stops (h : Scan rows pageSize known offset visits result)
    (hvisits : visits = before ++ v :: after)
    (hknown : known = true ∨ ∃ u ∈ before ++ [v], Reports u) (hv : Reaches rows v) :
    after = [] := by
  induction h generalizing before with
  | failed f => exact (singleton_eq_append hvisits).2.2
  | reached page hend => exact (singleton_eq_append hvisits).2.2
  | more page hrows hwithin hopen hrest ih =>
    rcases List.cons_eq_append_iff.mp hvisits with ⟨rfl, hfirst⟩ | ⟨before', rfl, hrest⟩
    · -- The first page has not brought all rows that were reported.
      obtain ⟨rfl, -⟩ := List.cons.inj hfirst
      obtain ⟨page', hpage, hreached⟩ := hv
      cases hpage
      refine absurd hreached (Nat.not_le_of_lt (hopen ?_))
      rw [Bool.or_eq_true]
      refine hknown.imp_right ?_
      rintro ⟨u, hu, page', hpage, hreport⟩
      rw [List.mem_singleton.mp hu] at hpage
      cases hpage
      exact hreport
    · refine ih hrest ?_
      rw [Bool.or_eq_true]
      rcases hknown with hknown | ⟨u, hu, hreport⟩
      · exact .inl (.inl hknown)
      · rw [List.cons_append, List.mem_cons] at hu
        rcases hu with rfl | hu
        · obtain ⟨page', hpage, hreport⟩ := hreport
          cases hpage
          exact .inl (.inr hreport)
        · exact .inr ⟨u, hu, hreport⟩

end Scan

/-! ## The scan of a server -/

theorem isComplete_iff {total : Option Nat} {n : Nat} :
    isComplete total n = true ↔ ∃ t, total = some t ∧ t ≤ n := by
  cases total with
  | none => simp [isComplete]
  | some t => simp [isComplete]

/-- The page after the rows so far makes them longer, unless all rows are there. -/
theorem Served.page_spec {rows got : List ρ} {v : (pages ρ ε).Exchange} {page : Page ρ}
    (hv : Served rows v) (hpage : v.2 = .ok page) (hoffset : v.1.offset = got.length)
    (hgot : got <+: rows) :
    got ++ page.rows <+: rows ∧ (page.rows = [] → rows.length ≤ got.length) ∧
      (page.total = none ∨ page.total = some rows.length) := by
  obtain ⟨page', k, hpage', hrows, -, hsome, htotal⟩ := hv
  obtain rfl := Except.ok.inj (hpage.symm.trans hpage')
  obtain ⟨tail, rfl⟩ := hgot
  rw [hoffset, List.drop_left] at hrows
  rw [hoffset] at hsome
  refine ⟨?_, fun hnil => ?_, htotal⟩
  · rw [hrows, List.prefix_append_right_inj]
    exact List.take_prefix k tail
  · by_contra hmore
    have hk := hsome (Nat.lt_of_not_le hmore)
    rw [hrows, List.take_eq_nil_iff] at hnil
    rcases hnil with rfl | rfl
    · cases hk
    · exact hmore (by simp)

section Step

variable {rows got : List ρ} {total : Option Nat} {pageSize requests : Nat} {page : Page ρ}
  {visits : List (pages ρ ε).Exchange} {outcome : Option (Except ε (List ρ))}

/-- A page ends a scan with all rows, or the scan goes on behind it. -/
theorem collectFrom_page (hv : @Served ρ ε rows ⟨⟨got.length, pageSize⟩, .ok page⟩)
    (hgot : got <+: rows) (htotal : total = none ∨ total = some rows.length)
    (hy : (collectFrom askPage pageSize (requests + 1) got total).Yields
      (⟨⟨got.length, pageSize⟩, .ok page⟩ :: visits) outcome) :
    (rows.length ≤ got.length + page.rows.length ∧ visits = [] ∧ outcome = some (.ok rows)) ∨
    (0 < page.rows.length ∧ got ++ page.rows <+: rows ∧
      (total.or page.total = none ∨ total.or page.total = some rows.length) ∧
      ((total.or page.total).isSome = true → got.length + page.rows.length < rows.length) ∧
      (collectFrom askPage pageSize requests (got ++ page.rows) (total.or page.total)).Yields visits
        outcome) := by
  obtain ⟨hmore, hnil, hreport⟩ := hv.page_spec rfl rfl hgot
  obtain ⟨reply, rest, heq, hy⟩ := hy
  cases heq
  change (if page.rows.isEmpty then Program.done (some (.ok got)) else
    if isComplete (total.or page.total) (got ++ page.rows).length then
      Program.done (some (.ok (got ++ page.rows)))
    else collectFrom askPage pageSize requests (got ++ page.rows)
      (total.or page.total)).Yields visits outcome at hy
  have htotal' : total.or page.total = none ∨ total.or page.total = some rows.length := by
    rcases htotal with rfl | rfl
    · exact hreport
    · exact .inr rfl
  rw [← List.length_append]
  split at hy
  · next hempty =>
    obtain ⟨rfl, rfl⟩ := hy
    have hend := List.isEmpty_iff.mp hempty
    obtain rfl := hgot.eq_of_length_le (hnil hend)
    exact .inl ⟨by rw [hend, List.append_nil], rfl, rfl⟩
  · next hempty =>
    split at hy
    · next hcomplete =>
      obtain ⟨rfl, rfl⟩ := hy
      obtain ⟨t, ht, hle⟩ := isComplete_iff.mp hcomplete
      obtain rfl : t = rows.length :=
        Option.some.inj (ht.symm.trans (htotal'.resolve_left (by simp [ht])))
      rw [hmore.eq_of_length_le hle]
      exact .inl ⟨Nat.le_refl _, rfl, rfl⟩
    · next hopen =>
      have hpos : 0 < page.rows.length :=
        List.length_pos_of_ne_nil fun hnil => hempty (List.isEmpty_iff.mpr hnil)
      refine .inr ⟨hpos, hmore, htotal', fun hknown => ?_, hy⟩
      -- Otherwise all rows would be there, as reported.
      by_contra hend
      have hreported := htotal'.resolve_left (Option.isSome_iff_ne_none.mp hknown)
      exact hopen (isComplete_iff.mpr ⟨_, hreported, Nat.le_of_not_lt hend⟩)

/-- The pages of a server are scanned from where the rows so far end. -/
theorem scan_collectFrom
    (hy : (collectFrom askPage pageSize requests got total).Yields visits outcome)
    (hserver : ∀ v ∈ visits, (∃ f, v.2 = .error f) ∨ Served rows v) (hgot : got <+: rows)
    (htotal : total = none ∨ total = some rows.length)
    (hrequests : rows.length - got.length < requests) :
    ∃ result, outcome = some result ∧ Scan rows pageSize total.isSome got.length visits result := by
  -- A page that does not end the scan takes a row at least, so there are requests left for what is
  -- left of the rows.
  induction requests generalizing got total visits with
  | zero => exact absurd hrequests (Nat.not_lt_zero _)
  | succ requests ih =>
    obtain ⟨reply, rest, rfl, hrest⟩ := id hy
    rw [List.forall_mem_cons] at hserver
    cases reply with
    | error f =>
      obtain ⟨rfl, rfl⟩ := hrest
      exact ⟨.error f, rfl, .failed f⟩
    | ok page =>
      have hserved := hserver.1.resolve_left fun ⟨f, hf⟩ => nomatch hf
      rcases collectFrom_page hserved hgot htotal hy with
        ⟨hend, rfl, rfl⟩ | ⟨hpos, hmore, htotal', hbefore, hy'⟩
      · exact ⟨.ok rows, rfl, .reached page hend⟩
      · have hwithin : got.length + page.rows.length ≤ rows.length := by
          rw [← List.length_append]
          exact hmore.length_le
        have hrequests' : rows.length - (got ++ page.rows).length < requests := by
          rw [List.length_append]
          omega
        obtain ⟨result, rfl, hscan⟩ := ih hy' hserver.2 hmore htotal' hrequests'
        rw [Option.isSome_or] at hscan hbefore
        rw [List.length_append] at hscan
        exact ⟨result, rfl, .more page hpos hwithin hbefore hscan⟩

end Step

section Run

variable {fetch : Nat → Nat → Program I (Except ε (Page ρ))}
  {answer : (q : I.Ask) → σ → I.Answer q × σ} {s : σ} {rows : List ρ} {pageSize requests : Nat}

theorem scan_collectPages
    (hserver : ∀ v ∈ pageVisits fetch answer pageSize requests s,
      (∃ f, v.2 = .error f) ∨ Served rows v) (hrequests : rows.length < requests) :
    ∃ result, ((collectPages fetch pageSize requests).run answer s).1 = some result ∧
      Scan rows pageSize false 0 (pageVisits fetch answer pageSize requests s) result := by
  rw [collectPages_answered, Program.run_answered]
  exact scan_collectFrom (Program.yields_transcript _ _ _) hserver List.nil_prefix (.inl rfl)
    hrequests

/-- The requests that read a whole table, each with its reply, and the result. -/
structure WholeScan (rows : List ρ) (pageSize : Nat) (visits : List (pages ρ ε).Exchange)
    (result : Except ε (List ρ)) : Prop where
  few : visits.length ≤ rows.length + 1
  start : visits.head?.map (·.1.offset) = some 0
  increasing : (visits.map (·.1.offset)).Pairwise (· < ·)
  limits : ∀ v ∈ visits, v.1.limit = pageSize
  /-- Where no request fails, the result is all rows in their order. -/
  whole : (∀ v ∈ visits, ∃ page, v.2 = .ok page) → result = .ok rows
  /-- A request that fails is the last one, and the result is its failure. -/
  failed : ∀ before v after f, visits = before ++ v :: after → v.2 = .error f →
    after = [] ∧ result = .error f
  /-- Where the number of rows was reported and is reached, nothing more is asked for. -/
  stops : ∀ before v after, visits = before ++ v :: after → (∃ u ∈ before ++ [v], Reports u) →
    Reaches rows v → after = []

theorem Scan.wholeScan {visits : List (pages ρ ε).Exchange} {result : Except ε (List ρ)}
    (h : Scan rows pageSize false 0 visits result) : WholeScan rows pageSize visits result where
  few := h.length_le (Nat.zero_le _)
  start := h.head?
  increasing := h.increasing
  limits := h.limit_eq
  whole := h.whole
  failed _ _ _ _ hvisits hv := h.failure hvisits hv
  stops _ _ _ hvisits hreport hv := h.stops hvisits (.inr hreport) hv

/-- So a client reads a table, unless it has more pages than a client asks for. -/
theorem Client.fetchRows_wholeScan {c : Client} {table select order : String}
    {answer : (q : Exchange.Ask) → σ → Exchange.Answer q × σ} {rows : List Row}
    (hserver : ∀ v ∈ pageVisits (c.fetchPage table select order) answer c.pageSize c.maxPages s,
      (∃ f, v.2 = .error f) ∨ Served rows v) (hpages : rows.length < c.maxPages) :
    WholeScan rows c.pageSize
      (pageVisits (c.fetchPage table select order) answer c.pageSize c.maxPages s)
      ((c.fetchRows table select order).run answer s).1 := by
  obtain ⟨result, hresult, hscan⟩ := scan_collectPages hserver hpages
  rw [Client.fetchRows, Program.bind_eq, Program.run_bind, hresult]
  exact hscan.wholeScan

/-- A server that cuts its pages as it likes, and reports the number of rows with any of them, is
read from its first row to its last one, whatever is used to fetch the pages: with at most one
request more than there are rows the scan has come to its end. -/
theorem collectPages_whole
    (hserver : ∀ v ∈ pageVisits fetch answer pageSize requests s,
      (∃ f, v.2 = .error f) ∨ Served rows v) (hrequests : rows.length < requests) :
    collectPages fetch pageSize requests =
        (collectPages (I := pages ρ ε) askPage pageSize requests).answered
          (fun q : PageRequest => fetch q.offset q.limit) ∧
      ∃ result, ((collectPages fetch pageSize requests).run answer s).1 = some result ∧
        WholeScan rows pageSize (pageVisits fetch answer pageSize requests s) result := by
  obtain ⟨result, hresult, hscan⟩ := scan_collectPages hserver hrequests
  exact ⟨collectPages_answered fetch pageSize requests, result, hresult, hscan.wholeScan⟩

end Run

namespace PagingSample

def rows : List Nat := [1, 2, 3, 4, 5]

/-- A server that counts its requests. Its pages have two rows, but for the second one, which has
one row and the number of all. -/
def answer (q : PageRequest) (turn : Nat) : Except String (Page Nat) × Nat :=
  let cut := if turn = 1 then 1 else 2
  (.ok ⟨(rows.drop q.offset).take cut, if turn = 1 then some 5 else none⟩, turn + 1)

end PagingSample

/-- The third page is the last one, and it is not followed by an empty one. -/
theorem collectPages_whole_sample :
    let visits := pageVisits askPage PagingSample.answer 3 6 0
    visits.map (·.1.offset) = [0, 2, 3] ∧
      (∀ v ∈ visits, (∃ f, v.2 = .error f) ∨ Served PagingSample.rows v) ∧
      PagingSample.rows.length < 6 ∧
      ((collectPages (I := pages Nat String) askPage 3 6).run PagingSample.answer 0).1 =
        some (.ok PagingSample.rows) ∧
      WholeScan PagingSample.rows 3 visits (.ok PagingSample.rows) := by
  intro visits
  have hserver : ∀ v ∈ visits, (∃ f, v.2 = .error f) ∨ Served PagingSample.rows v := by
    intro v hv
    refine .inr ?_
    have hvisits : visits = [⟨⟨0, 3⟩, .ok ⟨[1, 2], none⟩⟩, ⟨⟨2, 3⟩, .ok ⟨[3], some 5⟩⟩,
      ⟨⟨3, 3⟩, .ok ⟨[4, 5], none⟩⟩] := rfl
    rw [hvisits, List.mem_cons, List.mem_cons, List.mem_singleton] at hv
    rcases hv with rfl | rfl | rfl
    · exact ⟨_, 2, rfl, rfl, by decide, by decide, .inl rfl⟩
    · exact ⟨_, 1, rfl, rfl, by decide, by decide, .inr rfl⟩
    · exact ⟨_, 2, rfl, rfl, by decide, by decide, .inl rfl⟩
  have hrequests : PagingSample.rows.length < 6 := by decide
  obtain ⟨-, result, hresult, hscan⟩ :=
    collectPages_whole hserver hrequests
  have hrun : ((collectPages (I := pages Nat String) askPage 3 6).run PagingSample.answer 0).1 =
      some (.ok PagingSample.rows) := rfl
  obtain rfl := Option.some.inj (hrun.symm.trans hresult)
  exact ⟨rfl, hserver, hrequests, hrun, hscan⟩

end RegistryDedup.Postgrest
