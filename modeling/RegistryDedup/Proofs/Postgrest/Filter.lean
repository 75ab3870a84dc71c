import RegistryDedup.Postgrest.Client
import RegistryDedup.Proofs.Text.Split
import RegistryDedup.Proofs.Transcript
import RegistryDedup.Proofs.Url.Form

/-!
# What a filter chooses

A server reads a list of values between quotes up to the quote that ends it, and a backslash before
a character takes away its meaning. What is written as such a list is read as the values that were
put into it, whatever characters they have, and so a request deletes the rows with these values and
no others.

- `readItems`, `readIn?`: what a server reads.
- `filterItem_eq`: the two replacements put one backslash before each quote and each backslash of
  a value.
- `Chooses`: the values that a filter is true of.
- `Client.only_deleteIds`: the requests of a deletion, with all that stands in their queries.
-/

namespace RegistryDedup.Postgrest

open Text

variable {c : Char} {s item rest more : List Char} {items : List (List Char)} {ids : List String}

/-! ## Reading -/

/-- The rest of a list of values, the first quote of a value having been read. A backslash takes the
next character as it is, and any other quote ends the value: the list ends there, or a comma and
the quote of the next value follow. -/
def readItems : List Char → Option (List (List Char) × List Char)
  | '\\' :: c :: cs => (readItems cs).map fun (items, rest) => (items.modifyHead (c :: ·), rest)
  | ['\\'] => none
  | '"' :: ')' :: cs => some ([[]], cs)
  | '"' :: ',' :: '"' :: cs => (readItems cs).map fun (items, rest) => ([] :: items, rest)
  | '"' :: _ => none
  | c :: cs => (readItems cs).map fun (items, rest) => (items.modifyHead (c :: ·), rest)
  | [] => none

/-- The values of a filter at the start of a text, with what follows it. -/
def readIn? (s : List Char) : Option (List String × List Char) :=
  ((afterLead "in.(\"".toList s).bind readItems).map fun (items, rest) =>
    (items.map String.ofList, rest)

/-- A character without a meaning between quotes. -/
theorem readItems_plain (hquote : c ≠ '"') (hslash : c ≠ '\\')
    (h : readItems s = some (item :: items, more)) :
    readItems (c :: s) = some ((c :: item) :: items, more) := by
  rw [readItems.eq_def]
  split
  · next heq => exact absurd (List.cons.inj heq).1 hslash
  · next heq => exact absurd (List.cons.inj heq).1 hslash
  · next heq => exact absurd (List.cons.inj heq).1 hquote
  · next heq => exact absurd (List.cons.inj heq).1 hquote
  · next heq => exact absurd (List.cons.inj heq).1 hquote
  · next heq =>
    obtain ⟨rfl, rfl⟩ := List.cons.inj heq
    rw [h]
    rfl
  · next heq => cases heq

/-! ## Writing -/

/-- How a character of a value is written between quotes. -/
def filterChar (c : Char) : List Char :=
  if c = '"' ∨ c = '\\' then ['\\', c] else [c]

/-- The two replacements put one backslash before each quote and each backslash. -/
theorem filterItem_eq (value : String) :
    filterItem value = '"' :: (value.toList.flatMap filterChar ++ ['"']) := by
  have hchar : ∀ c : Char,
      (if '\\' = c then ['\\', '\\'] else [c]).flatMap (fun d => if '"' = d then ['\\', '"'] else [d])
        = filterChar c := by
    intro c
    unfold filterChar
    by_cases hslash : c = '\\'
    · subst hslash
      rfl
    by_cases hquote : c = '"'
    · subst hquote
      rfl
    rw [if_neg (Ne.symm hslash), List.flatMap_singleton, if_neg (Ne.symm hquote),
      if_neg (not_or.mpr ⟨hquote, hslash⟩)]
  unfold filterItem
  dsimp only
  rw [replaceAll_singleton, replaceAll_singleton, List.flatMap_assoc, List.cons_append]
  simp only [hchar]

/-- A value as it is written is read as that value, up to the quote after it. -/
theorem readItems_flatMap (h : readItems rest = some (item :: items, more)) (s : List Char) :
    readItems (s.flatMap filterChar ++ rest) = some ((s ++ item) :: items, more) := by
  induction s with
  | nil => exact h
  | cons c s ih =>
    rw [List.flatMap_cons, List.append_assoc, filterChar]
    split
    · show (readItems (s.flatMap filterChar ++ rest)).map _ = _
      rw [ih]
      rfl
    · next hc =>
      rw [not_or] at hc
      exact readItems_plain hc.1 hc.2 ih

/-- A list of values as it is written. -/
theorem readItems_joinWith (rest : List Char) (v : String) (vs : List String) :
    ∃ inner, joinWith [','] ((v :: vs).map filterItem) ++ ')' :: rest = '"' :: inner ∧
      readItems inner = some ((v :: vs).map String.toList, rest) := by
  -- The first quote of a value is read by whoever reads what is in front of it, so that the
  -- induction is on the text after that quote.
  induction vs generalizing v with
  | nil =>
    refine ⟨v.toList.flatMap filterChar ++ '"' :: ')' :: rest, ?_, ?_⟩
    · simp [joinWith, filterItem_eq]
    · have hlast : readItems ('"' :: ')' :: rest) = some ([[]], rest) := rfl
      rw [readItems_flatMap hlast, List.append_nil]
      rfl
  | cons w ws ih =>
    obtain ⟨inner, hinner, hread⟩ := ih w
    refine ⟨v.toList.flatMap filterChar ++ '"' :: ',' :: '"' :: inner, ?_, ?_⟩
    · have hne : (w :: ws).map filterItem ≠ [] := List.cons_ne_nil _ _
      rw [List.map_cons, joinWith_cons hne, List.append_assoc, hinner, filterItem_eq]
      simp
    · have hnext : readItems ('"' :: ',' :: '"' :: inner) =
          some ([] :: (w :: ws).map String.toList, rest) := by
        rw [readItems, hread]
        rfl
      rw [readItems_flatMap hnext, List.append_nil]
      rfl

theorem toList_inFilter (ids : List String) : (inFilter ids).toList =
    ['i', 'n', '.', '('] ++ joinWith [','] (ids.map filterItem) ++ [')'] :=
  String.toList_ofList

/-- A filter is read as the values that were put into it, and nothing of it is left. -/
theorem readIn?_inFilter (hids : ids ≠ []) (rest : List Char) :
    readIn? ((inFilter ids).toList ++ rest) = some (ids, rest) := by
  obtain ⟨v, vs, rfl⟩ := List.exists_cons_of_ne_nil hids
  obtain ⟨inner, hinner, hread⟩ := readItems_joinWith rest v vs
  have htext : (inFilter (v :: vs)).toList ++ rest = "in.(\"".toList ++ inner := by
    rw [toList_inFilter, List.append_assoc, List.append_assoc, List.singleton_append, hinner]
    rfl
  rw [htext, readIn?]
  show ((readItems inner).map _) = _
  rw [hread]
  simp

/-- A list of no values is not read as one of some. -/
theorem readIn?_inFilter_nil : readIn? (inFilter []).toList = none := rfl

theorem inFilter_injective : Function.Injective inFilter := by
  have hread : ∀ ids : List String, readIn? (inFilter ids).toList =
      if ids = [] then none else some (ids, []) := by
    intro ids
    split
    · next hids => rw [hids, readIn?_inFilter_nil]
    · next hids => simpa using readIn?_inFilter hids []
  intro ids ids' heq
  have hsame := hread ids
  rw [heq, hread ids'] at hsame
  by_cases hids : ids = [] <;> by_cases hids' : ids' = [] <;> simp_all

/-- A value of which a filter is true. -/
def Chooses (filter value : String) : Prop :=
  ∃ values, readIn? filter.toList = some (values, []) ∧ value ∈ values

theorem chooses_inFilter_iff {value : String} : Chooses (inFilter ids) value ↔ value ∈ ids := by
  by_cases hids : ids = []
  · subst hids
    refine iff_of_false ?_ List.not_mem_nil
    rintro ⟨values, hread, -⟩
    rw [readIn?_inFilter_nil] at hread
    cases hread
  · have hread : readIn? (inFilter ids).toList = some (ids, []) := by
      simpa using readIn?_inFilter hids []
    simp [Chooses, hread]

/-! ## Requests -/

namespace Client

variable {client : Client} {method : Method} {table column : String}
  {query headers : List (String × String)} {body : Option Row} {request : HttpRequest}

theorem query_withoutReadableCredentials (url : Url) :
    (withoutReadableCredentials url).query = url.query := by
  unfold withoutReadableCredentials
  split
  · rfl
  · dsimp only
    split
    · rfl
    · split <;> rfl

/-- More names and values in a query come after those that are there. -/
theorem formPairs_withQuery (url : Url) (query : List (String × String)) :
    Url.formPairs ((withQuery url query).query.getD []) =
      Url.formPairs (url.query.getD []) ++ query := by
  have hwritten := Url.formPairs_formQuery query
  unfold withQuery
  split
  · rw [List.append_nil]
  · next hnone =>
    rw [hnone]
    exact hwritten
  · next hempty =>
    rw [hempty]
    exact hwritten
  · next hknown =>
    rw [hknown]
    show Url.formPairs (_ ++ '&' :: Url.formQuery _) = _
    rw [Url.formPairs_append, hwritten]
    rfl

/-- A request goes to the address of its table, with its names and values at the end of the
query. -/
theorem request_eq_ok (h : client.request method table query headers body = .ok request) :
    request.method = method ∧ ∃ url address : Url, Url.read (client.endpoint table) = .ok address ∧
      request.url = url.text ∧
      Url.formPairs (url.query.getD []) = Url.formPairs (address.query.getD []) ++ query := by
  unfold Client.request at h
  dsimp only at h
  -- The headers may be refused, but nothing of the address depends on them.
  generalize client.commonHeaders table ++ headers ++ _ = sent at h
  split at h
  · cases h
  · next address hread =>
    split at h
    · cases h
    split at h
    · cases h
    split at h
    · cases h
    obtain rfl := Except.ok.inj h
    refine ⟨rfl, _, address, hread, rfl, ?_⟩
    rw [formPairs_withQuery, query_withoutReadableCredentials]

theorem only_send {P : HttpRequest → Prop} {r : Except HttpFault HttpRequest}
    (h : ∀ request, r = .ok request → P request) : (send r).Only P := by
  cases r with
  | error fault => exact trivial
  | ok request =>
    refine ⟨h request rfl, fun reply => ?_⟩
    cases reply with
    | error fault => exact trivial
    | ok response =>
      dsimp only
      split <;> exact trivial

/-- The requests of a change. -/
theorem only_mutate {P : HttpRequest → Prop} {filter : String × String}
    (h : ∀ request, client.request method table [filter, ("select", column)]
      [("prefer", "return=representation")] body = .ok request → P request) :
    (client.mutate method table column filter body).Only P := by
  unfold mutate
  dsimp only
  generalize client.request method table _ _ body = r at h ⊢
  refine (only_send h).bind fun reply => ?_
  cases reply with
  | error e => exact trivial
  | ok response =>
    dsimp only
    split <;> exact trivial

/-- The requests of a deletion: the filter of the ids is the only thing in the query that depends on
them. -/
theorem only_deleteIds (client : Client) (table idColumn : String) :
    ∃ others : List (String × String), ∀ ids,
      (client.call (.deleteIds table idColumn ids)).Only fun request : HttpRequest =>
        request.method = .delete ∧ ∃ url : Url, request.url = url.text ∧
          Url.formPairs (url.query.getD []) =
            others ++ [(idColumn, inFilter ids), ("select", idColumn)] := by
  let address := (Url.read (client.endpoint table)).toOption
  refine ⟨Url.formPairs ((address.bind Url.query).getD []), fun ids => ?_⟩
  cases ids with
  | nil => exact trivial
  | cons v vs =>
    refine only_mutate fun request h => ?_
    obtain ⟨hmethod, url, address', hread, htext, hpairs⟩ := request_eq_ok h
    refine ⟨hmethod, url, htext, ?_⟩
    rw [hpairs]
    dsimp only [address]
    rw [hread]
    rfl

end Client

/-- A filter of ids is read as just these ids in their order, whatever characters they have, so that
other ids have another filter and it is true of no other id. Nothing else in the requests of a
deletion depends on the ids. -/
theorem inFilter_exact :
    (∀ ids : List String, ids ≠ [] → ∀ rest,
      readIn? ((inFilter ids).toList ++ rest) = some (ids, rest)) ∧
    Function.Injective inFilter ∧
    (∀ (ids : List String) (value : String), Chooses (inFilter ids) value ↔ value ∈ ids) ∧
    ∀ (client : Client) (table idColumn : String), ∃ others : List (String × String), ∀ ids,
      (client.call (.deleteIds table idColumn ids)).Only fun request : HttpRequest =>
        request.method = .delete ∧ ∃ url : Url, request.url = url.text ∧
          Url.formPairs (url.query.getD []) =
            others ++ [(idColumn, inFilter ids), ("select", idColumn)] :=
  ⟨fun _ hids rest => readIn?_inFilter hids rest, inFilter_injective,
    fun _ _ => chooses_inFilter_iff, Client.only_deleteIds⟩

/-- Ids that end with a backslash, or have a quote after one, and that look like the end of a list. -/
theorem inFilter_exact_marks :
    let ids := ["a\\", "\\\"", "\"),(\"", "", "é,\"\\\\\""]
    ids ≠ [] ∧ inFilter ids = "in.(\"a\\\\\",\"\\\\\\\"\",\"\\\"),(\\\"\",\"\",\"é,\\\"\\\\\\\\\\\"\")" ∧
      readIn? ((inFilter ids).toList ++ [')']) = some (ids, [')']) :=
  ⟨by decide, by decide +kernel, inFilter_exact.1 _ (by decide) _⟩

end RegistryDedup.Postgrest
