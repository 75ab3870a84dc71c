import RegistryDedup.Proofs.Registry.Identifier
import RegistryDedup.Proofs.Sql.Quoting

/-!
# Tokens of statements

A statement says what its tokens say, so a name that is put into a statement does no harm where it
stays within tokens of its own.

- `readQuoted?`: the parts of a quoted name. By `quoteName_injective` no two names are written in
  the same way.
- `scan`: the tokens of a text, read from the left, with quoted names and literals in which a
  doubled quote stands for one.
- `scan_quoted`, `scan_quoteName`, `scan_plain`: what is written between quotes is one token, a
  quoted name is one token for each part, and plain text has its tokens whatever follows it.
- `repointTokens`, `deleteTokens`: the tokens of the statements that move references and delete rows.
  By `quoting_contained` only the names in them vary.
-/

namespace RegistryDedup.Sql

open Text

/-! ## Whole names -/

/-- The parts of a quoted name at the start of a text, with what follows it. -/
def readQuoted? : List Char → Option (List (List Char) × List Char)
  | '"' :: cs => readParts cs
  | _ => none

theorem readQuoted?_quoteName {rest : List Char} (hrest : EndsName rest) (name : String) :
    readQuoted? ((quoteName name).toList ++ rest) = some (splitOn '.' name.toList, rest) := by
  rw [quoteName, String.toList_ofList, joinWith_quotePart, List.cons_append, List.append_assoc]
  exact readParts_flatMap hrest name.toList

/-- Nothing follows a name that is all of a text. -/
theorem endsName_nil : EndsName [] :=
  ⟨by simp, by simp⟩

theorem quoteName_injective : Function.Injective quoteName := by
  intro name name' heq
  have hread : ∀ n : String, readName? (quoteName n).toList = some (n, []) := fun n => by
    simpa using readName?_quoteName endsName_nil n
  have hsame := hread name
  rw [heq, hread name'] at hsame
  exact (Prod.mk.inj (Option.some.inj hsame)).1.symm

/-! ## Tokens -/

/-- A token of a statement. -/
inductive Token where
  /-- A name between quotes, or a part of one. -/
  | name (part : List Char)
  | literal (text : List Char)
  | param (digits : List Char)
  | word (letters : List Char)
  | blank
  | mark (c : Char)
  deriving DecidableEq

/-- Blanks only keep other tokens apart. -/
def Token.isBlank : Token → Bool
  | .blank => true
  | _ => false

/-- What may stand between quotes. -/
inductive Quotation where
  | name
  | literal

/-- The quote around it. -/
def Quotation.quote : Quotation → Char
  | name => '"'
  | literal => '\''

/-- It is one token. -/
def Quotation.token : Quotation → List Char → Token
  | name => .name
  | literal => .literal

/-- A character in front of what else is between quotes. -/
def extend (c : Char) : List Token → List Token
  | .name cs :: ts => .name (c :: cs) :: ts
  | .literal cs :: ts => .literal (c :: cs) :: ts
  | ts => ts

/-- A character that is not between quotes, in front of some tokens. The characters of names make up
words, and a dollar sign before digits is a parameter. -/
def push (c : Char) (ts : List Token) : List Token :=
  if isNameChar c then
    match ts with
    | .word cs :: ts => .word (c :: cs) :: ts
    | ts => .word [c] :: ts
  else if c = '$' then
    match ts with
    | .word cs :: ts => if cs.all isDigit then .param cs :: ts else .mark c :: .word cs :: ts
    | ts => .mark c :: ts
  else if c.isWhitespace then .blank :: ts
  else .mark c :: ts

/-- The tokens of a text that is read outside of quotes, or within some. What is between quotes has
an end, and a doubled quote in it stands for one. -/
def scan : Option Quotation → List Char → Option (List Token)
  | none, [] => some []
  | none, c :: cs =>
    if c = '"' then scan (some .name) cs
    else if c = '\'' then scan (some .literal) cs
    else (scan none cs).map (push c)
  | some _, [] => none
  | some q, [c] => if c = q.quote then some [q.token []] else none
  | some q, c :: c' :: cs =>
    if c = q.quote then
      if c' = q.quote then (scan (some q) cs).map (extend c)
      else (scan none (c' :: cs)).map (q.token [] :: ·)
    else (scan (some q) (c' :: cs)).map (extend c)

/-- The tokens of a statement. -/
def tokens (sql : String) : Option (List Token) :=
  (scan none sql.toList).map (·.filter (!·.isBlank))

/-! ## Between quotes -/

/-- How a character is written between quotes. -/
def Quotation.escape (q : Quotation) (c : Char) : List Char :=
  if c = q.quote then [c, c] else [c]

theorem extend_token (q : Quotation) (c : Char) (cs : List Char) (ts : List Token) :
    extend c (q.token cs :: ts) = q.token (c :: cs) :: ts := by
  cases q <;> rfl

theorem scan_quoted_cons {q : Quotation} {c : Char} (hc : c ≠ q.quote) (cs : List Char) :
    scan (some q) (c :: cs) = (scan (some q) cs).map (extend c) := by
  cases cs <;> simp [scan, hc]

/-- A quote that is not doubled ends what is between quotes. -/
theorem scan_close {q : Quotation} {c : Char} (hc : c ≠ q.quote) (cs : List Char) :
    scan (some q) (q.quote :: c :: cs) = (scan none (c :: cs)).map (q.token [] :: ·) := by
  rw [scan.eq_def]
  dsimp only
  rw [if_pos rfl, if_neg hc]

/-- What is written between quotes is one token. -/
theorem scan_quoted {q : Quotation} {rest : List Char} (hrest : rest.head? ≠ some q.quote)
    (cs : List Char) : scan (some q) (cs.flatMap q.escape ++ q.quote :: rest) =
      (scan none rest).map (q.token cs :: ·) := by
  induction cs with
  | nil =>
    rw [List.flatMap_nil, List.nil_append]
    cases rest with
    | nil => simp [scan]
    | cons c rest =>
      have hc : c ≠ q.quote := fun hc => hrest (congrArg some hc)
      rw [scan_close hc]
  | cons c cs ih =>
    have hextend : ((scan none rest).map (q.token cs :: ·)).map (extend c) =
        (scan none rest).map (q.token (c :: cs) :: ·) := by
      rw [Option.map_map]
      exact congrArg (Option.map · _) (funext fun ts => extend_token q c cs ts)
    rw [List.flatMap_cons, List.append_assoc, Quotation.escape, ← hextend, ← ih]
    split
    · next hc => rw [List.cons_append, List.singleton_append, scan, if_pos hc, if_pos hc]
    · next hc => exact scan_quoted_cons hc _

/-! ## Names and plain text -/

/-- The tokens of a quoted name: its parts with dots between them. -/
def nameTokens (parts : List (List Char)) : List Token :=
  (parts.map Token.name).intersperse (.mark '.')

theorem quotedNameChar_eq_escape : quotedNameChar = Quotation.escape .name := by
  funext c
  change _ = if c = '"' then _ else _
  rw [quotedNameChar]
  split
  · next hc => rw [hc]
  · rfl

theorem scan_quotePart {rest : List Char} (hrest : rest.head? ≠ some '"') (p : List Char) :
    scan none (quotePart p ++ rest) = (scan none rest).map (Token.name p :: ·) := by
  rw [quotePart, List.cons_append, List.cons_append, List.append_assoc, scan, if_pos rfl,
    quotedNameChar_eq_escape]
  exact scan_quoted (q := .name) hrest p

theorem scan_joinWith {rest : List Char} (hrest : rest.head? ≠ some '"') (p : List Char)
    (ps : List (List Char)) :
    scan none (joinWith ['.'] ((p :: ps).map quotePart) ++ rest) =
      (scan none rest).map (nameTokens (p :: ps) ++ ·) := by
  induction ps generalizing p with
  | nil => exact scan_quotePart hrest p
  | cons p' ps ih =>
    rw [List.map_cons, joinWith_cons (by simp), List.append_assoc, List.append_assoc,
      scan_quotePart (by simp), List.singleton_append, scan, if_neg (by decide),
      if_neg (by decide), ih, Option.map_map, Option.map_map]
    rfl

/-- A quoted name is one token for each part, whatever characters it has. -/
theorem scan_quoteName {rest : List Char} (hrest : rest.head? ≠ some '"') (name : String) :
    scan none ((quoteName name).toList ++ rest) =
      (scan none rest).map (nameTokens (splitOn '.' name.toList) ++ ·) := by
  rw [quoteName, String.toList_ofList]
  obtain ⟨p, ps, hparts⟩ := List.exists_cons_of_ne_nil (splitOn_ne_nil '.' name.toList)
  rw [hparts]
  exact scan_joinWith hrest p ps

/-- A character that is a token of its own, or none, wherever it stands outside of quotes. -/
def isSeparator (c : Char) : Bool :=
  !isNameChar c && c != '$' && c != '"' && c != '\''

/-- A text without quotes that ends with a separator. -/
def isPlain : List Char → Bool
  | [] => false
  | [c] => isSeparator c
  | c :: c' :: cs => c != '"' && c != '\'' && isPlain (c' :: cs)

theorem push_ne_nil (c : Char) (ts : List Token) : push c ts ≠ [] := by
  unfold push
  repeat' split
  all_goals exact List.cons_ne_nil _ _

theorem push_separator {c : Char} (hc : isSeparator c) (ts : List Token) :
    push c ts = push c [] ++ ts := by
  simp only [isSeparator, Bool.and_eq_true, bne_iff_ne, Bool.not_eq_true'] at hc
  obtain ⟨⟨⟨hname, hdollar⟩, -⟩, -⟩ := hc
  simp only [push, hname, Bool.false_eq_true, if_false, if_neg hdollar]
  split <;> rfl

/-- A character looks no further than at the first of the tokens that follow it. -/
theorem push_append (c : Char) {us : List Token} (hus : us ≠ []) (ts : List Token) :
    push c (us ++ ts) = push c us ++ ts := by
  obtain ⟨u, us, rfl⟩ := List.exists_cons_of_ne_nil hus
  rw [List.cons_append]
  unfold push
  cases u <;> dsimp only <;> repeat' split
  all_goals rfl

theorem scan_outside {c : Char} (hname : c ≠ '"') (hliteral : c ≠ '\'') (cs : List Char) :
    scan none (c :: cs) = (scan none cs).map (push c) := by
  rw [scan, if_neg hname, if_neg hliteral]

/-- Plain text has its tokens, whatever follows it. -/
theorem scan_plain {cs : List Char} (hcs : isPlain cs) (rest : List Char) :
    scan none (cs ++ rest) = (scan none rest).map (cs.foldr push [] ++ ·) := by
  induction cs using isPlain.induct with
  | case1 => cases hcs
  | case2 c =>
    have hseparator : isSeparator c = true := hcs
    have hquotes := hseparator
    rw [isSeparator, Bool.and_eq_true, Bool.and_eq_true, bne_iff_ne, bne_iff_ne] at hquotes
    rw [List.singleton_append, scan_outside hquotes.1.2 hquotes.2]
    exact congrArg (Option.map · _) (funext (push_separator hseparator))
  | case3 c c' cs ih =>
    rw [isPlain, Bool.and_eq_true, Bool.and_eq_true, bne_iff_ne, bne_iff_ne] at hcs
    rw [List.cons_append, scan_outside hcs.1.1 hcs.1.2, ih hcs.2, Option.map_map]
    exact congrArg (Option.map · _) (funext (push_append c (push_ne_nil c' _)))

/-- A text without the quote of a literal is written as it is. -/
theorem flatMap_escape_literal {cs : List Char} (hcs : '\'' ∉ cs) :
    cs.flatMap (Quotation.escape .literal) = cs := by
  have hplain : ∀ c ∈ cs, Quotation.escape .literal c = [c] := by
    rintro c hc
    refine if_neg fun heq : c = '\'' => ?_
    subst heq
    exact hcs hc
  rw [List.flatMap_def, List.map_congr_left hplain, ← List.flatMap_def, List.flatMap_singleton']

theorem scan_literal {rest : List Char} (hrest : rest.head? ≠ some '\'') {cs : List Char}
    (hcs : '\'' ∉ cs) :
    scan none ('\'' :: (cs ++ '\'' :: rest)) = (scan none rest).map ([Token.literal cs] ++ ·) := by
  have hread := scan_quoted (q := .literal) hrest cs
  rw [flatMap_escape_literal hcs] at hread
  rw [scan, if_neg (by decide), if_pos rfl]
  exact hread

/-! ## Statements -/

/-- A word of a statement. -/
def keyword (letters : String) : Token :=
  .word letters.toList

/-- The tokens of the statement that moves references, with the parts of the names of its table and
its column, and with what is in its literal. -/
def repointTokens (table column : List (List Char)) (literal : List Char) : List Token :=
  [keyword "UPDATE"] ++ nameTokens table ++ [keyword "SET"] ++ nameTokens column ++
    [.mark '=', .mark '(', keyword "json_populate_record", .mark '(', keyword "NULL", .mark ':',
      .mark ':'] ++ nameTokens table ++
    [.mark ',', keyword "json_build_object", .mark '(', .literal literal, .mark ',', .param ['1'],
      .mark ':', .mark ':', keyword "text", .mark ')', .mark ')', .mark ')', .mark '.'] ++
    nameTokens column ++ [keyword "WHERE"] ++ nameTokens column ++
    [.mark ':', .mark ':', keyword "text", .mark '=', .param ['2']]

/-- The tokens of the statement that deletes rows, with the parts of its names. -/
def deleteTokens (table column : List (List Char)) : List Token :=
  [keyword "DELETE", keyword "FROM"] ++ nameTokens table ++ [keyword "WHERE"] ++
    nameTokens column ++ [.mark ':', .mark ':', keyword "text", .mark '=', .param ['1']]

theorem nameTokens_cons_cons (p p' : List Char) (ps : List (List Char)) :
    nameTokens (p :: p' :: ps) = [.name p, .mark '.'] ++ nameTokens (p' :: ps) := rfl

theorem filter_nameTokens (parts : List (List Char)) :
    (nameTokens parts).filter (!·.isBlank) = nameTokens parts := by
  induction parts with
  | nil => rfl
  | cons p ps ih =>
    cases ps with
    | nil => rfl
    | cons p' ps => rw [nameTokens_cons_cons, List.filter_append, ih]; rfl

/-- The characters of a text that is put together of several. -/
theorem toList_foldl_append (first : String) (others : List String) :
    (others.foldl (· ++ ·) first).toList = first.toList ++ others.flatMap String.toList := by
  induction others generalizing first with
  | nil => simp
  | cons other others ih => simp [ih]

theorem tokens_deleteSql (table column : String) :
    tokens (deleteSql table column) =
      some (deleteTokens (splitOn '.' table.toList) (splitOn '.' column.toList)) := by
  have htext : (deleteSql table column).toList = _ := toList_foldl_append "DELETE FROM "
    [quoteName table, " WHERE ", quoteName column, "::text = $1"]
  have hend : scan none "::text = $1".toList = some ("::text = $1".toList.foldr push []) := by
    decide +kernel
  simp only [List.flatMap_cons, List.flatMap_nil, List.append_nil] at htext
  rw [tokens, htext, scan_plain (by decide +kernel), scan_quoteName (by simp),
    scan_plain (by decide +kernel), scan_quoteName (by simp), hend]
  simp only [Option.map_some, List.filter_append, filter_nameTokens, deleteTokens,
    List.append_assoc]
  rfl

/-- The name of the column stands in a literal as well, and there it must not have a quote. -/
theorem tokens_repointSql (table : String) {column : String} (hcolumn : '\'' ∉ column.toList) :
    tokens (repointSql table column) = some (repointTokens (splitOn '.' table.toList)
      (splitOn '.' column.toList) column.toList) := by
  have htext : (repointSql table column).toList = _ := toList_foldl_append "UPDATE "
    [quoteName table, " SET ", quoteName column, " = (json_populate_record(NULL::",
      quoteName table, ", json_build_object('", column, "', $1::text))).", quoteName column,
      " WHERE ", quoteName column, "::text = $2"]
  have hopen : ", json_build_object('".toList = ", json_build_object(".toList ++ ['\''] := rfl
  have hclose : "', $1::text))).".toList = '\'' :: ", $1::text))).".toList := rfl
  have hend : scan none "::text = $2".toList = some ("::text = $2".toList.foldr push []) := by
    decide +kernel
  simp only [List.flatMap_cons, List.flatMap_nil, hopen, hclose, List.append_assoc,
    List.cons_append, List.nil_append, List.append_nil] at htext
  rw [tokens, htext, scan_plain (by decide +kernel), scan_quoteName (by simp),
    scan_plain (by decide +kernel), scan_quoteName (by simp), scan_plain (by decide +kernel),
    scan_quoteName (by simp), scan_plain (by decide +kernel), scan_literal (by simp) hcolumn,
    scan_plain (by decide +kernel), scan_quoteName (by simp), scan_plain (by decide +kernel),
    scan_quoteName (by simp), hend]
  simp only [Option.map_some, List.filter_append, filter_nameTokens, repointTokens,
    List.append_assoc]
  rfl

/-! ## Identifiers -/

/-- The quote around literals is no character of a name. -/
theorem quote_not_mem_of_isIdentifier {name : String} (hname : isIdentifier name) :
    '\'' ∉ name.toList :=
  (isIdentifier_iff.mp hname).not_mem rfl (by decide) (by decide)

/-- The statements for a table and a column: their names stand in tokens of their own, and all else
is the same for all names. -/
structure Contained (table column : String) : Prop where
  table_parts : (splitOn '.' table.toList).length = 1 ∨ (splitOn '.' table.toList).length = 2
  column_parts : (splitOn '.' column.toList).length = 1 ∨ (splitOn '.' column.toList).length = 2
  repoint : tokens (repointSql table column) = some (repointTokens (splitOn '.' table.toList)
    (splitOn '.' column.toList) column.toList)
  delete : tokens (deleteSql table column) =
    some (deleteTokens (splitOn '.' table.toList) (splitOn '.' column.toList))

/-- Any name can be read back from how it is written, and names that pass the check stay within
tokens of their own. -/
theorem quoting_contained :
    (∀ name, readQuoted? (quoteName name).toList = some (splitOn '.' name.toList, [])) ∧
    Function.Injective quoteName ∧
    ∀ table column, checkIdentifier table = .ok () → checkIdentifier column = .ok () →
      Contained table column := by
  refine ⟨fun name => ?_, quoteName_injective, fun table column htable hcolumn => ?_⟩
  · simpa using readQuoted?_quoteName endsName_nil name
  · rw [checkIdentifier_eq_ok_iff] at htable hcolumn
    exact { table_parts := length_parts htable
            column_parts := length_parts hcolumn
            repoint := tokens_repointSql table (quote_not_mem_of_isIdentifier hcolumn)
            delete := tokens_deleteSql table column }

/-- A name with a schema is two tokens, and one without is one. -/
theorem quoting_contained_regions :
    checkIdentifier "public.regions" = .ok () ∧ checkIdentifier "region_id" = .ok () ∧
    deleteSql "public.regions" "region_id" =
      "DELETE FROM \"public\".\"regions\" WHERE \"region_id\"::text = $1" ∧
    deleteTokens (splitOn '.' "public.regions".toList) (splitOn '.' "region_id".toList) =
      [keyword "DELETE", keyword "FROM", .name "public".toList, .mark '.', .name "regions".toList,
        keyword "WHERE", .name "region_id".toList, .mark ':', .mark ':', keyword "text", .mark '=',
        .param ['1']] ∧
    Contained "public.regions" "region_id" :=
  ⟨rfl, rfl, by decide +kernel, by decide +kernel,
    quoting_contained.2.2 "public.regions" "region_id" rfl rfl⟩

end RegistryDedup.Sql
