import RegistryDedup.Registry.Basic

/-!
# Survivors

Of the members of a group one is kept. `select` splits a group into the member that is kept and the
others, in their order.

- `Policy.mostReferenced`: the member with the most references; of several the one that was created
  first, and of those the one that comes first.
- `Policy.mostRecent`: the member that was created last; of several the one that comes first.

A member whose time of creation is not known comes after all others, under either policy.
-/

namespace RegistryDedup

/-- How the member of a group that is kept is chosen. -/
inductive Policy where
  | mostReferenced
  | mostRecent
  deriving DecidableEq, Repr

namespace Policy

/-- The name of a policy. -/
def name : Policy → String
  | mostReferenced => "most-referenced"
  | mostRecent => "most-recent"

/-- The policy of a name. -/
def ofName? (s : String) : Option Policy :=
  [mostReferenced, mostRecent].find? (·.name == s)

/-- Whether the policy looks at the number of references. -/
def needsCounts : Policy → Bool
  | mostReferenced => true
  | mostRecent => false

end Policy

/-- How many references a member has, in all and by table. -/
structure RefCount where
  id : String
  total : Nat
  perTable : Tally
  deriving DecidableEq

/-- A group split into the member that is kept and the others. -/
structure Selection where
  keep : Entity
  losers : List Entity
  deriving DecidableEq

namespace Selection

/-- The ids of the members that are not kept. -/
def loserIds (s : Selection) : List String :=
  s.losers.map (·.id)

end Selection

/-- A list split into its first best item and the others in their order. An item is better than
another if it is strictly better. -/
def extractBest {α : Type} (better : α → α → Bool) : List α → Option (α × List α)
  | [] => none
  | x :: xs =>
    match extractBest better xs with
    | none => some (x, [])
    | some (y, rest) => if better y x then some (y, x :: rest) else some (x, xs)

/-- The total of an id in a list of counts: that of its last entry, or zero. -/
def totalOf (counts : List RefCount) (id : String) : Nat :=
  ((counts.reverse.find? (·.id == id)).map (·.total)).getD 0

/-- Whether one time of creation is strictly earlier than another. A known one is earlier than an
unknown one. -/
def earlierCreated : Option Instant → Option Instant → Bool
  | some s, some t => s.before t
  | some _, none => true
  | none, _ => false

/-- Whether one time of creation is strictly later than another, or is known where the other is
not. -/
def laterCreated : Option Instant → Option Instant → Bool
  | some s, some t => t.before s
  | some _, none => true
  | none, _ => false

/-- Whether a policy strictly prefers one member to another. -/
def prefers (policy : Policy) (counts : List RefCount) (a b : Entity) : Bool :=
  match policy with
  | .mostReferenced =>
    totalOf counts b.id < totalOf counts a.id ||
      (totalOf counts b.id == totalOf counts a.id && earlierCreated a.created b.created)
  | .mostRecent => laterCreated a.created b.created

/-- The member that is kept and the others; none only for an empty group. -/
def select (policy : Policy) (members : List Entity) (counts : List RefCount) :
    Option Selection :=
  (extractBest (prefers policy counts) members).map fun (keep, losers) => ⟨keep, losers⟩

end RegistryDedup
