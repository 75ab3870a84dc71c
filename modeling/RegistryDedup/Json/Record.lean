import RegistryDedup.Json.Value

/-!
# Records in JSON text

A record has fixed members. It is written as an object, in which other members do not count and no
member of the record may occur twice, or as an array of its members in order.

- `Tree.members?`: the members of a record, those that are missing as `none`.
- `Tree.textMember?`, `Tree.optionalText?`, `Tree.itemsOf?`: what a member holds.
-/

namespace RegistryDedup

namespace Tree

/-- The members of an object under some names. Fails if one of them occurs twice, or if a name is
not well formed. -/
def pickMembers? (names : List String) (fields : List (List Char × Tree)) :
    Option (List (Option Tree)) := do
  let named ← fields.mapM fun (name, value) => do
    return (String.ofList (← unescape? name), value)
  names.mapM fun name =>
    match named.filter (·.1 == name) with
    | [] => some none
    | [(_, value)] => some (some value)
    | _ => none

/-- The members of a record under some names. -/
def members? (names : List String) : Tree → Option (List (Option Tree))
  | .object fields => pickMembers? names fields
  | .array items => if items.length = names.length then some (items.map some) else none
  | _ => none

/-- A member that has to be a string. -/
def textMember? (member : Option Tree) : Option String :=
  member.bind text?

/-- A member that is a string, null or missing. -/
def optionalText? : Option Tree → Option (Option String)
  | none | some .null => some none
  | some tree => tree.text?.map some

/-- A member that has to be an array, with what each of its items holds. -/
def itemsOf? {α : Type} (item? : Tree → Option α) : Option Tree → Option (List α)
  | some (.array items) => items.mapM item?
  | _ => none

end Tree

end RegistryDedup
