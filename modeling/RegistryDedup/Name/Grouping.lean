import RegistryDedup.Name.Normalizer
import RegistryDedup.Registry.Basic

/-!
# Entities by key

- `Grouping.build`: entities by the key of their names. Keys are in the order in which they first
  come up, and the entities of a key are in their given order. Entities without a key are kept
  apart.
- `Grouping.candidates`: the keys with more than one entity.
- `Residual`: such a key with the ids of its entities.
-/

namespace RegistryDedup

/-- Several entities with one key. -/
structure DuplicateGroup where
  key : String
  members : List Entity
  deriving DecidableEq

namespace DuplicateGroup

/-- The ids of the members. -/
def ids (g : DuplicateGroup) : List String :=
  g.members.map (·.id)

end DuplicateGroup

/-- Entities by key, and those without a key. -/
structure Grouping where
  groups : List DuplicateGroup
  unnamed : List Entity
  deriving DecidableEq

/-- A key that more than one entity has. -/
structure Residual where
  key : String
  ids : List String
  deriving DecidableEq

namespace Grouping

/-- Entities with their keys. -/
def keyed (n : Normalizer) (entities : List Entity) : List (String × Entity) :=
  entities.map fun e => (n.key e.name, e)

/-- The entities of a key. -/
def membersOf (key : String) (keyed : List (String × Entity)) : List Entity :=
  (keyed.filter (·.1 == key)).map (·.2)

/-- The keys other than the empty one, in the order in which they first come up. -/
def keysOf (keyed : List (String × Entity)) : List String :=
  ((keyed.map (·.1)).filter (!·.isEmpty)).eraseDups

/-- Entities by the key of their names. -/
def build (n : Normalizer) (entities : List Entity) : Grouping :=
  let keyed := keyed n entities
  ⟨(keysOf keyed).map fun key => ⟨key, membersOf key keyed⟩, membersOf "" keyed⟩

/-- The keys with more than one entity. -/
def candidates (g : Grouping) : List DuplicateGroup :=
  g.groups.filter fun group => 1 < group.members.length

/-- How many keys there are. -/
def keyCount (g : Grouping) : Nat :=
  g.groups.length

/-- How many entities have a key. -/
def entityCount (g : Grouping) : Nat :=
  (g.groups.map (·.members.length)).foldr (· + ·) 0

/-- The keys that more than one entity has. -/
def residuals (g : Grouping) : List Residual :=
  g.candidates.map fun group => ⟨group.key, group.ids⟩

end Grouping

end RegistryDedup
