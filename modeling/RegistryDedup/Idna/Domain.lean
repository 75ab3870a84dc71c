import RegistryDedup.Idna.Direction
import RegistryDedup.Idna.Joining
import RegistryDedup.Idna.Mapping
import RegistryDedup.Idna.Punycode

/-!
# Host names in ASCII

A host name may have characters of all scripts. For comparison and for look-up it has one form in
ASCII: its characters are mapped and composed, and every label that still has others than ASCII is
written in ASCII after a lead of its own.

- `Label.read`: a label with the characters that it stands for.
- `toAscii`: a name in ASCII, if it is one.
-/

namespace RegistryDedup.Idna

open Text

namespace Label

/-- The beginning of labels that stand for others. -/
def lead : List Char := "xn--".toList

/-- How long a label after its lead may be. -/
def maxEncoded : Nat := 2000

/-- How long a label with others than ASCII characters may be. -/
def maxLength : Nat := 1000

/-- Whether a text has ASCII characters only. -/
def isAscii (label : List Char) : Bool :=
  label.all fun c => c.toNat < 0x80

/-- Whether characters are in the form that mapping and composing give. -/
def isNormal (label : List Char) : Bool :=
  label.all (statusOf · == .valid) && composed label == label

/-- The characters that a label stands for. A label with the lead has to stand for a label that
needs it. -/
def read (label : List Char) : Option (List Char) :=
  match afterLead lead label with
  | none => some label
  | some rest => do
    guard (isAscii rest && rest.length ≤ maxEncoded)
    let decoded ← Punycode.decode rest
    guard (!isAscii decoded && isNormal decoded)
    return decoded

/-- Whether a label may be part of a name: it does not begin with a mark, and its joiners fit. -/
def isSound (label : List Char) : Bool :=
  !(label.head?.map isMark).getD false && joinersFit label

/-- A label in ASCII. -/
def write (label : List Char) : Option (List Char) :=
  if isAscii label then some label
  else if maxLength < label.length then none
  else some (lead ++ Punycode.encode label)

end Label

/-- A name in ASCII. -/
def toAscii (name : List Char) : Option (List Char) := do
  let labels ← (splitOn '.' (composed (← mapped name))).mapM Label.read
  guard (labels.all Label.isSound)
  guard (!labels.any isBidirectional || labels.all keepsDirection)
  return ['.'].intercalate (← labels.mapM Label.write)

end RegistryDedup.Idna
