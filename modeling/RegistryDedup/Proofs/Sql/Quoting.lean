import RegistryDedup.Proofs.Text.Blank
import RegistryDedup.Proofs.Text.Split
import RegistryDedup.Sql.Statement

/-!
# Names in statements

A name stands in a statement part by part, each between quotes, with a quote in it written twice.
What is written so can be read back, so that a statement tells the names that were put into it.

- `readParts`: the parts of a quoted name, up to the quote that ends it, with what follows.
- `readName?`: the same of a whole name. `readName?_quoteName` reads back what was written, whatever
  characters the name has.
-/

namespace RegistryDedup.Sql

open Text

/-! ## Parts of a name -/

/-- A character in front of the first of some parts. -/
def consPart (c : Char) : List (List Char) → List (List Char)
  | [] => [[c]]
  | p :: ps => (c :: p) :: ps

theorem splitOn_cons (sep c : Char) (cs : List Char) :
    splitOn sep (c :: cs) =
      if c = sep then [] :: splitOn sep cs else consPart c (splitOn sep cs) := by
  rw [splitOn]
  split
  · rfl
  · cases splitOn sep cs <;> rfl

/-! ## Reading -/

/-- The parts of a quoted name whose first quote was read. A doubled quote stands for one, and a
quote after which a dot and another quote follow begins the next part. -/
def readParts : List Char → Option (List (List Char) × List Char)
  | [] => none
  | '"' :: '"' :: cs => (readParts cs).map fun (ps, rest) => (consPart '"' ps, rest)
  | '"' :: '.' :: '"' :: cs => (readParts cs).map fun (ps, rest) => ([] :: ps, rest)
  | '"' :: cs => some ([[]], cs)
  | c :: cs => (readParts cs).map fun (ps, rest) => (consPart c ps, rest)

/-- A quoted name at the start of a text, with what follows it. -/
def readName? : List Char → Option (String × List Char)
  | '"' :: cs => (readParts cs).map fun (ps, rest) => (String.ofList (joinWith ['.'] ps), rest)
  | _ => none

/-- How a character of a name stands between its first quote and its last one. -/
def nameChar (c : Char) : List Char :=
  if c = '.' then ['"', '.', '"'] else quotedNameChar c

theorem joinWith_quotePart_consPart {c : Char} {ps : List (List Char)} (hps : ps ≠ [])
    {inner : List Char} (hinner : joinWith ['.'] (ps.map quotePart) = '"' :: inner) :
    joinWith ['.'] ((consPart c ps).map quotePart) = '"' :: (quotedNameChar c ++ inner) := by
  cases ps with
  | nil => exact absurd rfl hps
  | cons p ps =>
    cases ps with
    | nil =>
      simp only [List.map_cons, List.map_nil, joinWith, quotePart, List.cons_append, List.cons.injEq,
        true_and] at hinner
      simp [consPart, joinWith, quotePart, ← hinner]
    | cons q ps =>
      simp only [List.map_cons, joinWith, quotePart, List.cons_append, List.cons.injEq, true_and,
        List.append_assoc] at hinner
      simp [consPart, joinWith, quotePart, ← hinner]

/-- A quoted name, character by character. -/
theorem joinWith_quotePart (cs : List Char) :
    joinWith ['.'] ((splitOn '.' cs).map quotePart) = '"' :: (cs.flatMap nameChar ++ ['"']) := by
  induction cs with
  | nil => rfl
  | cons c cs ih =>
    have hne := splitOn_ne_nil '.' cs
    rw [splitOn_cons, List.flatMap_cons, nameChar]
    split
    · rw [List.map_cons, joinWith_cons (by simpa using hne), ih]
      rfl
    · rw [joinWith_quotePart_consPart hne ih, List.append_assoc]

/-- What follows a quoted name does not belong to it: it begins neither with a quote nor with a dot
before a quote. -/
def EndsName (rest : List Char) : Prop :=
  (∀ cs, rest ≠ '"' :: cs) ∧ ∀ cs, rest ≠ '.' :: '"' :: cs

theorem readParts_flatMap {rest : List Char} (hrest : EndsName rest) (cs : List Char) :
    readParts (cs.flatMap nameChar ++ '"' :: rest) = some (splitOn '.' cs, rest) := by
  induction cs with
  | nil =>
    rw [List.flatMap_nil, List.nil_append]
    unfold readParts
    split
    · next heq => cases heq
    · next heq => exact absurd (List.cons.inj heq).2 (hrest.1 _)
    · next heq => exact absurd (List.cons.inj heq).2 (hrest.2 _)
    · next heq => rw [(List.cons.inj heq).2]; rfl
    · next hc heq => exact absurd (List.cons.inj heq).1.symm hc
  | cons c cs ih =>
    rw [List.flatMap_cons, List.append_assoc, splitOn_cons, nameChar, quotedNameChar]
    split
    · exact congrArg (Option.map _) ih
    · split
      · next hc => rw [hc]; exact congrArg (Option.map _) ih
      · next hc =>
        have hread : readParts (c :: (cs.flatMap nameChar ++ '"' :: rest)) =
            (readParts (cs.flatMap nameChar ++ '"' :: rest)).map fun (ps, rest) =>
              (consPart c ps, rest) := by
          rw [readParts.eq_def]
          split
          · next heq => cases heq
          · next heq => exact absurd (List.cons.inj heq).1 hc
          · next heq => exact absurd (List.cons.inj heq).1 hc
          · next heq => exact absurd (List.cons.inj heq).1 hc
          · next heq => obtain ⟨rfl, rfl⟩ := List.cons.inj heq; rfl
        exact hread.trans (congrArg (Option.map _) ih)

/-- What was written as a quoted name is read as that name. -/
theorem readName?_quoteName {rest : List Char} (hrest : EndsName rest) (name : String) :
    readName? ((quoteName name).toList ++ rest) = some (name, rest) := by
  rw [quoteName, String.toList_ofList, joinWith_quotePart, List.cons_append, List.append_assoc]
  show (readParts _).map _ = _
  rw [List.singleton_append, readParts_flatMap hrest, Option.map_some]
  dsimp only
  rw [joinWith_splitOn, String.ofList_toList]

end RegistryDedup.Sql
