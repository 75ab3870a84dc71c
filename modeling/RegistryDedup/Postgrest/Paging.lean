import RegistryDedup.Program

/-!
# Pages

A server may return fewer rows than it is asked for, so a table is read page by page: each request
starts where the rows so far end, until a page is empty or the number of rows that the server has
reported is reached.
-/

namespace RegistryDedup.Postgrest

/-- Rows, and how many there are in all if the server says so. -/
structure Page (ρ : Type) where
  rows : List ρ
  total : Option Nat

variable {I : Interface} {ρ ε : Type}

/-- Whether as many rows are there as have been reported. -/
def isComplete (total : Option Nat) (rows : Nat) : Bool :=
  match total with
  | some t => t ≤ rows
  | none => false

/-- The rows of all pages after some rows, with the total that was reported first. There is no
result if more than `requests` requests are needed. -/
def collectFrom (fetch : (offset limit : Nat) → Program I (Except ε (Page ρ))) (pageSize : Nat) :
    (requests : Nat) → (rows : List ρ) → (total : Option Nat) →
    Program I (Option (Except ε (List ρ)))
  | 0, _, _ => return none
  | requests + 1, rows, total => do
    match ← fetch rows.length pageSize with
    | .error e => return some (.error e)
    | .ok page =>
      let total := total.or page.total
      if page.rows.isEmpty then return some (.ok rows)
      else
        let rows := rows ++ page.rows
        if isComplete total rows.length then return some (.ok rows)
        else collectFrom fetch pageSize requests rows total

/-- The rows of all pages of a table, or the failure of the first request that failed. -/
def collectPages (fetch : (offset limit : Nat) → Program I (Except ε (Page ρ)))
    (pageSize requests : Nat) : Program I (Option (Except ε (List ρ))) :=
  collectFrom fetch pageSize requests [] none

end RegistryDedup.Postgrest
