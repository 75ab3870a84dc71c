import RegistryDedup.Merge.Survivor

/-!
# Owners with several details

- `duplicateDetails`: the owners that have more than one record, in the order in which they first
  come up. The newest record is kept: the one that was created last, where an unknown time is
  before all others; of several the one with the greatest id; of those the last.
-/

namespace RegistryDedup

/-- The records of one owner, split into the newest and the others in their order. -/
structure DetailDuplicate where
  owner : String
  keep : DetailRecord
  stale : List DetailRecord
  deriving DecidableEq

/-- Whether one time of creation is strictly before another. An unknown time is before all known
ones. -/
def olderCreated : Option Instant → Option Instant → Bool
  | some s, some t => s.before t
  | none, some _ => true
  | _, none => false

namespace DetailRecord

/-- Whether one record is strictly older than another: by time of creation, and between records of
the same time by id. -/
def isOlder (a b : DetailRecord) : Bool :=
  olderCreated a.created b.created ||
    (!olderCreated b.created a.created && a.id < b.id)

end DetailRecord

/-- The records of an owner. -/
def recordsOf (owner : String) (records : List DetailRecord) : List DetailRecord :=
  records.filter (·.owner == owner)

/-- The owners of some records, in the order in which they first come up. -/
def ownersOf (records : List DetailRecord) : List String :=
  (records.map (·.owner)).eraseDups

/-- Records split into the newest and the others, where there are others. -/
def splitNewest (owner : String) (records : List DetailRecord) : Option DetailDuplicate :=
  match extractBest (fun a b => !a.isOlder b) records with
  | some (keep, stale) => if stale.isEmpty then none else some ⟨owner, keep, stale⟩
  | none => none

/-- The owners that have more than one record. -/
def duplicateDetails (records : List DetailRecord) : List DetailDuplicate :=
  (ownersOf records).filterMap fun owner => splitNewest owner (recordsOf owner records)

end RegistryDedup
