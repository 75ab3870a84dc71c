import RegistryDedup.Url.Basic

/-!
# Paths of URLs

The segments of a path are put one after the other. A segment of one dot stands for the directory
that has been reached, and one of two dots for the directory above. The letter of a drive at the
start of a path of a file is not left that way.

- `Trail`: a path as far as it has been put together.
- `Trail.step`: the path with one more segment.
- `Trail.follow`: the path with several more.
-/

namespace RegistryDedup.Url

open Text

/-- Whether a segment stands for the directory above. -/
def isDoubleDot (segment : List Char) : Bool :=
  ["..", ".%2e", "%2e.", "%2e%2e"].any fun s => segment.map Char.toLower == s.toList

/-- Whether a segment stands for its own directory. -/
def isSingleDot (segment : List Char) : Bool :=
  [".", "%2e"].any fun s => segment.map Char.toLower == s.toList

/-- Whether a segment is the letter of a drive, with a colon or a bar. -/
def isDrive : List Char → Bool
  | [letter, mark] => letter.isAlpha && (mark == ':' || mark == '|')
  | _ => false

/-- Whether a segment is the letter of a drive with a colon. -/
def isNormalDrive (segment : List Char) : Bool :=
  isDrive segment && segment.getLast? == some ':'

/-- Whether a segment begins with the letter of a drive, alone or before a backslash. -/
def beginsWithDrive (segment : List Char) : Bool :=
  isDrive (segment.take 2) && ((segment.drop 2).head?.map (· == '\\')).getD true

/-- A path as far as it has been put together. -/
structure Trail where
  /-- The path from its end to its start, so that segments come and go at the front. -/
  reversed : List Char
  /-- Whether it begins with the letter of a drive. -/
  onDrive : Bool := false
  deriving DecidableEq

namespace Trail

/-- A path to go on from. -/
def ofPath (path : List Char) : Trail :=
  { reversed := path.reverse }

/-- The path. -/
def path (t : Trail) : List Char :=
  t.reversed.reverse

/-- Whether a path, reversed, ends with a slash. -/
def endsWithSlash (reversed : List Char) : Bool :=
  reversed.head? == some '/'

/-- What comes after the last slash of a path that is reversed. -/
def lastSegment (reversed : List Char) : List Char :=
  (reversed.takeWhile (· != '/')).reverse

/-- A path, reversed, without the slash at its end, unless it is the first one or that after a
drive. -/
def withoutLastSlash : (reversed : List Char) → List Char
  | '/' :: inner =>
    if inner.contains '/' && !beginsWithDrive (lastSegment inner) then inner else '/' :: inner
  | reversed => reversed

/-- The path of the directory above, both reversed. -/
def above (kind : SchemeKind) (reversed : List Char) : List Char :=
  let inner := withoutLastSlash reversed
  if kind == .file && isNormalDrive (lastSegment inner) then inner
  else inner.dropWhile (· != '/')

/-- The path with a slash at its end, if it has none. -/
def closed (reversed : List Char) : List Char :=
  if endsWithSlash reversed then reversed else '/' :: reversed

/-- The path with one more segment that is a whole; `slash` says whether a slash follows it. -/
def stepWhole (kind : SchemeKind) (slash : Bool) (t : Trail) (segment : List Char) : Trail :=
  let ended (reversed : List Char) : List Char := if slash then '/' :: reversed else reversed
  if isDoubleDot segment then
    let path := above kind t.reversed
    { t with reversed := if slash then closed path else path }
  else if isSingleDot segment then { t with reversed := closed t.reversed }
  else if kind == .file && t.reversed == ['/'] && isDrive segment then
    ⟨ended (':' :: segment.take 1 ++ t.reversed), true⟩
  else { t with reversed := ended (segment.reverse ++ t.reversed) }

/-- The path with one more segment; `slash` says whether a slash follows it. What stands right
behind the letter of a drive and its colon is a segment of its own. -/
def step (kind : SchemeKind) (slash : Bool) (t : Trail) (segment : List Char) : Trail :=
  let drive := segment.take 2
  if kind == .file && t.reversed == ['/'] && isNormalDrive drive && drive != segment then
    stepWhole kind slash { t with reversed := '/' :: drive.reverse ++ t.reversed } (segment.drop 2)
  else stepWhole kind slash t segment

/-- The path with several more segments, with slashes between them. -/
def follow (kind : SchemeKind) : Trail → List (List Char) → Trail
  | t, [] => t
  | t, [last] => step kind false t last
  | t, segment :: next :: rest => follow kind (step kind true t segment) (next :: rest)

end Trail

/-- A path with a text after it, and whether it is on a drive. The path of a file begins with one
slash only. -/
def readPath (kind : SchemeKind) (start text : List Char) : List Char × Bool :=
  let slashed := text.map fun c => if kind.isSlash c then '/' else c
  let t := Trail.follow kind (.ofPath start) ((splitOn '/' slashed).map (percentEncoded inPathSet))
  let path := if kind == .file then '/' :: t.path.dropWhile (· == '/') else t.path
  (path, t.onDrive)

example : readPath .web ['/'] "a/./b/../c%2E/%2e".toList = ("/a/c%2E/".toList, false) := by
  decide +kernel
example : readPath .file [] "/C|/../x".toList = ("/C:/x".toList, true) := by decide +kernel
example : readPath .file ['/'] "c:x/../..".toList = ("/c:/".toList, false) := by decide +kernel

end RegistryDedup.Url
