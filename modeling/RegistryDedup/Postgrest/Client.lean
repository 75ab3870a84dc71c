import RegistryDedup.Json.Printer
import RegistryDedup.Postgrest.Filter
import RegistryDedup.Postgrest.Paging
import RegistryDedup.Postgrest.Reply
import RegistryDedup.Store.Request
import RegistryDedup.Url.Reader

/-!
# A store behind a PostgREST server

Every call is one request, or one for each page of a table, and there are no transactions. The name
of a schema in front of a table goes into headers of the request.

- `Client`: where the server is, and what a request to it carries.
- `Client.call`: the requests of each call, as a program that sends them.
-/

namespace RegistryDedup.Postgrest

open Text

/-- A server and what requests to it carry. -/
structure Client where
  base : String
  apiKey : String
  pageSize : Nat
  /-- How many pages a table may have. -/
  maxPages : Nat

/-- How many rows a page has unless it is said otherwise. -/
def defaultPageSize : Nat := 1000

/-- The name by which the program presents itself. -/
def userAgent : String := "forest-admin/0.1"

/-- A base address without the slashes at its end. -/
def trimSlashes (s : String) : String :=
  String.ofList ((s.toList.reverse.dropWhile (· == '/')).reverse)

/-- The schema in front of a table, if there is one, and the table. -/
def splitSchema (table : String) : Option String × String :=
  match cutFirst '.' table with
  | some (schema, name) => (some schema, name)
  | none => (none, table)

/-- Whether a text may be the value of a header. -/
def isHeaderValue (s : String) : Bool :=
  s.toList.all fun c => c == '\t' || (0x20 ≤ c.toNat && c.toNat != 0x7F)

namespace Client

/-- A client for a base address. A page has at least one row. -/
def new (base apiKey : String) (pageSize maxPages : Nat) : Client :=
  ⟨trimSlashes base, apiKey, max pageSize 1, maxPages⟩

/-- The address of a table. -/
def endpoint (c : Client) (table : String) : String :=
  c.base ++ "/rest/v1/" ++ (splitSchema table).2

/-- The headers that every request for a table carries. -/
def commonHeaders (c : Client) (table : String) : List (String × String) :=
  [("accept", "*/*"), ("apikey", c.apiKey), ("authorization", "Bearer " ++ c.apiKey),
    ("user-agent", userAgent)] ++
    ((splitSchema table).1.toList.flatMap fun schema =>
      [("accept-profile", schema), ("content-profile", schema)])

/-- A URL with some more names and values in its query. -/
def withQuery (url : Url) (query : List (String × String)) : Url :=
  match query, url.query with
  | [], _ => url
  | _, none | _, some [] => { url with query := some (Url.formQuery query) }
  | _, some known => { url with query := some (known ++ '&' :: Url.formQuery query) }

/-- A URL whose user and password go into a header. They stay where they cannot be read, or where
there is nothing in them. -/
def withoutReadableCredentials (url : Url) : Url :=
  match url.authority.bind Authority.credentials with
  | none => url
  | some c =>
    let read (part : List Char) : Option (List Char) := (Utf8.decode (Url.percentDecoded part)).toOption
    match read c.user with
    | none => url
    | some user =>
      if user.isEmpty && (c.password.bind read).isNone then url else url.withoutCredentials

/-- How long the URL of a request may be. -/
def maxUrlLength : Nat := 65534

/-- Whether a request to a URL can be sent. Some characters that a host of a URL may have are refused
there. -/
def isSendable (url : Url) : Bool :=
  (url.scheme == "http".toList || url.scheme == "https".toList) &&
    !((url.authority.map Authority.host).getD []).any ("\"\x60\x7b\x7d".toList.contains ·) &&
    url.chars.length ≤ maxUrlLength

/-- A request for a table, or why there can be none. -/
def request (c : Client) (method : Method) (table : String) (query : List (String × String))
    (headers : List (String × String)) (body : Option Row) : Except HttpFault HttpRequest :=
  let content := if body.isSome then [("content-type", "application/json")] else []
  let headers := c.commonHeaders table ++ headers ++ content
  let unsendable (url : Url) : HttpFault := .unsendable ("builder error for url (" ++ url.text ++ ")")
  match Url.read (c.endpoint table) with
  | .error _ => .error (.unsendable "builder error")
  | .ok url =>
    if !url.hasHost then .error (unsendable url)
    else if !headers.all fun (_, value) => isHeaderValue value then
      .error (.unsendable "builder error")
    else
      let url := withQuery (withoutReadableCredentials url) query
      if !isSendable url then .error (unsendable url)
      else .ok ⟨method, url.text, headers, body.map fun row => (Json.obj row).compact⟩

/-- The failure that a fault stands for. -/
def faultOf (url : String) : HttpFault → Failure
  | .unsendable detail => .reported .other detail
  | .unanswered => .reported .transient ("error sending request for url (" ++ url ++ ")")

/-- A body as text. A mark of the order of bytes at its start does not count. -/
def bodyAsText (body : Option String) : String :=
  let chars := (body.getD "").toList
  String.ofList ((afterLead ['\ufeff'] chars).getD chars)

/-- The response to a request, if it is a success. -/
def send (request : Except HttpFault HttpRequest) : Program Exchange (Reply HttpResponse) :=
  match request with
  | .error fault => .done (.error (faultOf "" fault))
  | .ok request => .ask request fun
    | .error fault => .done (.error (faultOf request.url fault))
    | .ok response =>
      if isSuccess response.status then .done (.ok response)
      else .done (.error (classify response.status (bodyAsText response.body)))

/-- A body that is not what it should be. -/
def undecodable : Failure :=
  .reported .other "error decoding response body"

/-- One page of a table. The first request asks for the total too. -/
def fetchPage (c : Client) (table select order : String) (offset limit : Nat) :
    Program Exchange (Reply (Page Row)) := do
  let query := [("select", select), ("order", order ++ ".asc"), ("limit", decimal limit),
    ("offset", decimal offset)]
  let headers := if offset = 0 then [("prefer", "count=exact")] else []
  match ← send (c.request .get table query headers none) with
  | .error e => return .error e
  | .ok response =>
    match response.body.bind readRows? with
    | some rows => return .ok ⟨rows, responseTotal? response⟩
    | none => return .error undecodable

/-- All rows of a table. -/
def fetchRows (c : Client) (table select order : String) :
    Program Exchange (Reply (List Row)) := do
  match ← collectPages (c.fetchPage table select order) c.pageSize c.maxPages with
  | some reply => return reply
  | none => return .error (.reported .other (table ++ ": too many pages"))

/-- A change whose rows are asked for, of each of them one column, so as to count them. -/
def mutate (c : Client) (method : Method) (table column : String) (filter : String × String)
    (body : Option Row) : Program Exchange (Reply Nat) := do
  let request := c.request method table [filter, ("select", column)]
    [("prefer", "return=representation")] body
  match ← send request with
  | .error e => return .error e
  | .ok response =>
    match response.body.bind readItems? with
    | some items => return .ok items.length
    | none => return .error undecodable

/-- The columns under the names that a request gives them. -/
def aliased (names : List (String × String)) : String :=
  String.intercalate "," (names.map fun (name, column) => name ++ ":" ++ column)

/-- The columns that entities have in a reply. -/
def entityColumns (table : EntityTable) : EntityTable :=
  ⟨table.table, "id", "name", some "created_at"⟩

/-- The columns that details have in a reply. -/
def detailColumns (table : DetailTable) : DetailTable :=
  ⟨table.table, "id", "owner_id", "created_at"⟩

/-- Fails unless a table has all of some columns. -/
def checkColumns (c : Client) (table : String) (columns : List String) :
    Program Exchange (Reply Unit) := do
  let query := [("select", String.intercalate "," columns), ("limit", "0")]
  match ← send (c.request .get table query [] none) with
  | .ok _ => return .ok ()
  | .error e =>
    if e.kind = .other then return .error (.reported .config (table ++ ": " ++ e.detail))
    else return .error e

/-- The entities of a table. Every row has to have an id. -/
def fetchEntities (c : Client) (table : EntityTable) :
    Program Exchange (Reply (List Entity)) := do
  let created := table.createdColumn.toList.map fun column => ("created_at", column)
  let select := aliased ([("id", table.idColumn), ("name", table.nameColumn)] ++ created)
  match ← c.fetchRows table.table select table.idColumn with
  | .error e => return .error e
  | .ok rows =>
    match rows.mapM (Row.entity? (entityColumns table)) with
    | some entities => return .ok entities
    | none => return .error (.reported .other (table.table ++ " row without usable id"))

/-- How many rows have a value in a column. -/
def countReferences (c : Client) (table column value : String) :
    Program Exchange (Reply Nat) := do
  let query := [("select", column), (column, eqFilter value)]
  match ← send (c.request .head table query [("prefer", "count=exact")] none) with
  | .error e => return .error e
  | .ok response =>
    match responseTotal? response with
    | some n => return .ok n
    | none => return .error (.reported .other (table ++ ": missing Content-Range count"))

/-- The values of a column. -/
def distinctValues (c : Client) (table column : String) :
    Program Exchange (Reply (List String)) := do
  match ← c.fetchRows table (aliased [("v", column)]) column with
  | .error e => return .error e
  | .ok rows => return .ok (sortedTexts (rows.filterMap (Row.text? · "v")))

/-- The records of a table of details. -/
def fetchDetails (c : Client) (table : DetailTable) :
    Program Exchange (Reply (List DetailRecord)) := do
  let select := aliased [("id", table.idColumn), ("owner_id", table.ownerColumn),
    ("created_at", table.createdColumn)]
  match ← c.fetchRows table.table select table.idColumn with
  | .error e => return .error e
  | .ok rows => return .ok (rows.filterMap (Row.detail? (detailColumns table)))

/-- A row added. -/
def insertRow (c : Client) (table : String) (row : Row) : Program Exchange (Reply Unit) := do
  match ← send (c.request .post table [] [("prefer", "return=minimal")] (some row)) with
  | .ok _ => return .ok ()
  | .error e => return .error e

/-- The requests of each call. -/
def call (c : Client) : (r : Request) → Program Exchange (Reply r.Answer)
  | .checkColumns table columns => c.checkColumns table columns
  | .fetchEntities table => c.fetchEntities table
  | .countReferences table column value => c.countReferences table column value
  | .repoint table column source target =>
    c.mutate .patch table column (column, eqFilter source) (some [(column, .str target)])
  | .deleteIds table idColumn ids =>
    if ids.isEmpty then .done (.ok (0 : Nat))
    else c.mutate .delete table idColumn (idColumn, inFilter ids) none
  | .distinctValues table column => c.distinctValues table column
  | .fetchDetails table => c.fetchDetails table
  | .deleteWhere table column value =>
    c.mutate .delete table column (column, eqFilter value) none
  | .updateById table idColumn id patch =>
    c.mutate .patch table idColumn (idColumn, eqFilter id) (some patch)
  | .insertRow table row => c.insertRow table row
  | .merge _ => .done (.ok (none : Option MergeOutcome))

end Client

end RegistryDedup.Postgrest
