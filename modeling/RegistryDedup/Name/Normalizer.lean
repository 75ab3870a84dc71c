import RegistryDedup.Text.Upper
import RegistryDedup.Text.Split
import RegistryDedup.Text.Excerpt

/-!
# Canonical keys of names

A name is reduced to a key: upper case, one space between words, and no qualifier in front.
Qualifiers are words such as `KABUPATEN` that say what kind of thing a name belongs to.

- `Normalizer.ofList`: a normalizer with some qualifiers, longest first, without repetition.
- `Normalizer.key`: the key of a name. Qualifiers are taken off as long as one stands in front at a
  word boundary and something is left of the name.
-/

namespace RegistryDedup

open Text

/-- Reduces names to keys. -/
structure Normalizer where
  /-- In upper case, longest first. -/
  qualifiers : List (List Char)
  deriving DecidableEq

/-- Upper case with one space between words. -/
def plainName (s : List Char) : List Char :=
  collapse (upper s)

/-- Whether one qualifier is tried before another: the one with more bytes is, and of two of the
same length the one that comes first in order. -/
def triedBefore (p q : List Char) : Bool :=
  byteLength q < byteLength p || (byteLength p == byteLength q && p < q)

/-- A qualifier put in its place among others, unless it is there. -/
def insertQualifier (q : List Char) : List (List Char) → List (List Char)
  | [] => [q]
  | p :: ps =>
    if q = p then p :: ps
    else if triedBefore q p then q :: p :: ps
    else p :: insertQualifier q ps

/-- The words that are taken off where nothing else is asked for. -/
def defaultQualifiers : List String :=
  ["KABUPATEN", "KAB.", "KAB"]

namespace Normalizer

/-- A normalizer with some qualifiers, in any order and in upper or lower case. Blank ones do not
count. -/
def ofList (qualifiers : List String) : Normalizer :=
  ⟨((qualifiers.map fun q => plainName q.toList).filter (!·.isEmpty)).foldr insertQualifier []⟩

/-- The normalizer with the default qualifiers. -/
def standard : Normalizer :=
  ofList defaultQualifiers

/-- What is left of a key after a qualifier in front of it. The qualifier has to end with a point
or be followed by a space, and something has to be left. -/
def strip? (key q : List Char) : Option (List Char) :=
  match afterLead q key with
  | none => none
  | some rest =>
    if (q.getLast? == some '.' || rest.head? == some ' ') && !(trimStart rest).isEmpty then
      some (trimStart rest)
    else none

/-- What is left of a key after the first qualifier that can be taken off. -/
def stripOnce? (n : Normalizer) (key : List Char) : Option (List Char) :=
  n.qualifiers.findSome? (strip? key)

/-- Up to `times` qualifiers taken off. -/
def stripAll (n : Normalizer) : (times : Nat) → List Char → List Char
  | 0, key => key
  | times + 1, key =>
    match n.stripOnce? key with
    | some rest => stripAll n times rest
    | none => key

/-- The key of a name, as characters. Each qualifier that is taken off makes the key shorter. -/
def keyChars (n : Normalizer) (name : List Char) : List Char :=
  let key := plainName name
  n.stripAll key.length key

/-- The key of a name. -/
def key (n : Normalizer) (name : String) : String :=
  String.ofList (n.keyChars name.toList)

end Normalizer

end RegistryDedup
