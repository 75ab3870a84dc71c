import RegistryDedup.Decimal.Shortest
import RegistryDedup.Text.Split

/-!
# JSON values

- `Number`: a whole number of 64 bits, signed or unsigned, or a finite double.
- `Json`: a value. Members of an object are kept in the order given; `Fields.put` builds objects
  in the order of their names, without repetition.
- `Number.text`: how a number is written. Doubles have their shortest digits; they are positional
  from `0.00001` up to `10 ^ 16`, with at least one digit after the point, and have an exponent
  with a sign otherwise.
- `Json.text?`: the text of a scalar. Two cells of a column are the same if their texts are.
-/

namespace RegistryDedup

/-- A number in a JSON value. -/
inductive Number where
  | int (value : Int)
  | float (value : Decimal.Binary64)
  deriving DecidableEq, Repr

namespace Number

open Decimal Text

/-- Least and greatest power of ten of a double in positional notation. -/
def positionalFrom : Int := -5

/-- The power of ten from which on a double is written with an exponent. -/
def positionalBelow : Int := 16

/-- The digits of a positive decimal number, positional or with an exponent. -/
def scientificText (d : Scientific) : List Char :=
  let digits := Nat.toDigits 10 d.coefficient
  let order : Int := digits.length - 1 + d.exponent
  if positionalFrom ≤ order ∧ order < positionalBelow then
    if 0 ≤ d.exponent then digits ++ List.replicate d.exponent.toNat '0' ++ ['.', '0']
    else if 0 ≤ order then
      digits.take (order.toNat + 1) ++ '.' :: digits.drop (order.toNat + 1)
    else ['0', '.'] ++ List.replicate (-order - 1).toNat '0' ++ digits
  else
    let mantissa := match digits with
      | first :: rest => if rest.isEmpty then [first] else first :: '.' :: rest
      | [] => []
    mantissa ++ 'e' :: (if order < 0 then '-' else '+') :: Nat.toDigits 10 order.natAbs

/-- How a double is written. -/
def floatText (x : Binary64) : List Char :=
  (if x.negative then ['-'] else []) ++
    if x.isZero then ['0', '.', '0'] else scientificText (shortest x)

/-- How a number is written. -/
def text : Number → List Char
  | .int n => (signedDecimal n).toList
  | .float x => floatText x

end Number

/-- A JSON value. -/
inductive Json where
  | null
  | bool (value : Bool)
  | num (value : Number)
  | str (value : String)
  | arr (items : List Json)
  | obj (fields : List (String × Json))
  deriving BEq, Repr

/-- Members of an object: names with their values. -/
abbrev Fields := List (String × Json)

namespace Fields

/-- The value under a name. -/
def get? (fields : Fields) (name : String) : Option Json :=
  fields.lookup name

/-- The members, in the order of their names, with one value set. A member of that name is
replaced. -/
def put (name : String) (value : Json) : Fields → Fields
  | [] => [(name, value)]
  | (n, v) :: rest =>
    if name = n then (name, value) :: rest
    else if name < n then (name, value) :: (n, v) :: rest
    else (n, v) :: put name value rest

/-- All members of a list set one after the other: the last value of a name stays. -/
def ofList (fields : List (String × Json)) : Fields :=
  fields.foldl (fun acc (name, value) => put name value acc) []

end Fields

namespace Json

/-- A natural number as a value. -/
def nat (n : Nat) : Json :=
  .num (.int n)

/-- Texts as an array. -/
def strings (xs : List String) : Json :=
  .arr (xs.map .str)

/-- A text, or null. -/
def optional : Option String → Json
  | some s => .str s
  | none => .null

/-- The text of a string, if the value is one. -/
def str? : Json → Option String
  | .str s => some s
  | _ => none

/-- The text of a scalar: a string as it is, a number or a truth value as it is written. Null,
arrays and objects have none. -/
def text? : Json → Option String
  | .str s => some s
  | .num n => some (String.ofList n.text)
  | .bool true => some "true"
  | .bool false => some "false"
  | _ => none

end Json

end RegistryDedup
