/-!
# Taking text apart

- `splitOn`: the parts of a text between the occurrences of a separator; never empty.
- `cutAtFirst`, `cutAtLast`: the text before and after the first or the last separator.
- `afterLead`: the rest of a text after a given beginning.
- `linesOf`: the lines of a text.
- `replaceAll`: every occurrence of a piece of text replaced, from left to right.
- `sortedTexts`: texts in ascending order, without repetition.
-/

namespace RegistryDedup.Text

/-- The parts of a text between the occurrences of `sep`. A text without `sep` is one part. -/
def splitOn (sep : Char) : List Char → List (List Char)
  | [] => [[]]
  | c :: cs =>
    if c = sep then [] :: splitOn sep cs
    else
      match splitOn sep cs with
      | [] => [[c]]
      | p :: ps => (c :: p) :: ps

/-- The text before and after the first `sep`, if there is one. -/
def cutAtFirst (sep : Char) : List Char → Option (List Char × List Char)
  | [] => none
  | c :: cs =>
    if c = sep then some ([], cs)
    else (cutAtFirst sep cs).map fun (before, after) => (c :: before, after)

/-- The text before and after the last `sep`, if there is one. -/
def cutAtLast (sep : Char) : List Char → Option (List Char × List Char)
  | [] => none
  | c :: cs =>
    match cutAtLast sep cs with
    | some (before, after) => some (c :: before, after)
    | none => if c = sep then some ([], cs) else none

/-- The rest of a text that begins with `lead`. -/
def afterLead : (lead text : List Char) → Option (List Char)
  | [], text => some text
  | _ :: _, [] => none
  | l :: lead, c :: text => if l = c then afterLead lead text else none

/-- `replaceAll` on a text of which the first `skip` characters belong to an occurrence that has
been replaced. -/
def replaceFrom (piece by' : List Char) : (skip : Nat) → List Char → List Char
  | _, [] => []
  | skip + 1, _ :: cs => replaceFrom piece by' skip cs
  | 0, c :: cs =>
    match piece, afterLead piece (c :: cs) with
    | _ :: rest, some _ => by' ++ replaceFrom piece by' rest.length cs
    | _, _ => c :: replaceFrom piece by' 0 cs

/-- The text with every occurrence of `piece`, read from the left, replaced. Nothing is replaced
where `piece` is empty. -/
def replaceAll (piece by' text : List Char) : List Char :=
  replaceFrom piece by' 0 text

/-- Whether `piece` occurs in the text. -/
def occursIn (piece : List Char) : List Char → Bool
  | [] => piece.isEmpty
  | c :: cs => (afterLead piece (c :: cs)).isSome || occursIn piece cs

/-- The lines of a text. A line ends with a line feed, before which a carriage return does not
count; what follows the last line feed is a line unless it is empty. -/
def linesOf (text : List Char) : List (List Char) :=
  match (splitOn '\n' text).reverse with
  | [] => []
  | last :: ended =>
    let ended := ended.reverse.map fun line =>
      if line.getLast? = some '\r' then line.dropLast else line
    if last.isEmpty then ended else ended ++ [last]

/-- `splitOn` on strings. -/
def parts (sep : Char) (s : String) : List String :=
  (splitOn sep s.toList).map String.ofList

/-- `cutAtFirst` on strings. -/
def cutFirst (sep : Char) (s : String) : Option (String × String) :=
  (cutAtFirst sep s.toList).map fun (before, after) => (String.ofList before, String.ofList after)

/-- Whether a string begins with another. -/
def beginsWith (lead s : String) : Bool :=
  (afterLead lead.toList s.toList).isSome

/-- `replaceAll` on strings. -/
def replaced (piece by' s : String) : String :=
  String.ofList (replaceAll piece.toList by'.toList s.toList)

/-- `occursIn` on strings. -/
def contains (piece s : String) : Bool :=
  occursIn piece.toList s.toList

/-- A text put into an ascending list, unless it is there. -/
def insertText (x : String) : List String → List String
  | [] => [x]
  | y :: ys => if x < y then x :: y :: ys else if x = y then y :: ys else y :: insertText x ys

/-- Texts in ascending order, without repetition. -/
def sortedTexts (xs : List String) : List String :=
  xs.foldr insertText []

/-- Whole numbers in decimal digits. -/
def decimal (n : Nat) : String :=
  String.ofList (Nat.toDigits 10 n)

/-- Whole numbers with a sign in decimal digits. -/
def signedDecimal (n : Int) : String :=
  if n < 0 then "-" ++ decimal n.natAbs else decimal n.natAbs

example : splitOn '.' "a..b".toList = ["a".toList, [], "b".toList] := by decide
example : cutAtLast '/' "a/b/7".toList = some ("a/b".toList, "7".toList) := by decide
example : replaceAll "aa".toList "b".toList "aaaaa".toList = "bba".toList := by decide

end RegistryDedup.Text
