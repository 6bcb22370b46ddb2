import WalletConsole.Remote.Form

/-!
# Addresses of the backend

A text is read as a URL the way browsers do: blanks at the ends are dropped, tabs and line breaks
everywhere, a backslash counts as a slash, and `.` and `..` in the path are resolved. Only `http`
and `https` are understood. The authority, host and port, is kept as it was written.

* `Url.parse?` — the parts of a URL
* `Url.target` — what a request line asks for: path and query
-/

namespace WalletConsole.Remote

open Text

/-- A URL. Segments of the path and the query are encoded. -/
structure Url where
  scheme : String
  authority : List Char
  path : List (List Char)
  query : Option (List Char)
  deriving DecidableEq, Repr

namespace Url

/-! ## Cleaning -/

/-- Characters dropped at both ends. -/
def isEdge (c : Char) : Bool := c.toNat ≤ 0x20

/-- Characters dropped everywhere. -/
def isDropped (c : Char) : Bool := c == '\t' || c == '\n' || c == '\r'

/-- A text without what does not count. -/
def clean (s : List Char) : List Char :=
  (((s.dropWhile isEdge).reverse.dropWhile isEdge).reverse).filter (!isDropped ·)

/-! ## Parts -/

/-- What divides the segments of a path. -/
def isSlash (c : Char) : Bool := c == '/' || c == '\\'

/-- Where an authority ends. -/
def endsAuthority (c : Char) : Bool := isSlash c || c == '?' || c == '#'

/-- Where a path ends. -/
def endsPath (c : Char) : Bool := c == '?' || c == '#'

/-- Drops the scheme in front, if it is this one in any case. -/
def dropScheme? (scheme : String) (s : List Char) : Option (List Char) :=
  let n := scheme.length
  if (s.take n).map Char.toLower = scheme.toList && (s.drop n).head? = some ':' then
    some (s.drop (n + 1))
  else none

/-- The scheme, and what follows its colon. -/
def scheme? (s : List Char) : Option (String × List Char) :=
  match dropScheme? "http" s, dropScheme? "https" s with
  | some rest, _ => some ("http", rest)
  | none, some rest => some ("https", rest)
  | none, none => none

/-! ## The path -/

/-- Is it the segment that changes nothing? -/
def isSingleDot (s : List Char) : Bool :=
  [".", "%2e"].contains (String.ofList (s.map Char.toLower))

/-- Is it the segment that goes back by one? -/
def isDoubleDot (s : List Char) : Bool :=
  ["..", ".%2e", "%2e.", "%2e%2e"].contains (String.ofList (s.map Char.toLower))

/-- Goes on from a path along some segments. A dot segment at the end leaves an empty one. -/
def follow (path : List (List Char)) : List (List Char) → List (List Char)
  | [] => path
  | [s] =>
    if isDoubleDot s then path.dropLast ++ [[]]
    else if isSingleDot s then path ++ [[]]
    else path ++ [percentEncode pathSet s]
  | s :: rest =>
    if isDoubleDot s then follow path.dropLast rest
    else if isSingleDot s then follow path rest
    else follow (path ++ [percentEncode pathSet s]) rest

/-- The segments of a path that starts with a slash or is empty. -/
def pathOf (s : List Char) : List (List Char) := follow [] (splitWhere isSlash (s.drop 1))

/-- The query after a path, if there is one. -/
def queryOf : List Char → Option (List Char)
  | '?' :: s => some (percentEncode querySet (s.takeWhile (· ≠ '#')))
  | _ => none

/-- The parts of a URL, if the text is one. -/
def parse? (s : List Char) : Option Url := do
  let (scheme, rest) ← scheme? (clean s)
  -- any number of slashes may stand in front of the host
  let rest := rest.dropWhile isSlash
  let authority := rest.takeWhile (!endsAuthority ·)
  if authority.isEmpty then none
  else
    let rest := rest.dropWhile (!endsAuthority ·)
    return ⟨scheme, authority, pathOf (rest.takeWhile (!endsPath ·)),
      queryOf (rest.dropWhile (!endsPath ·))⟩

/-! ## Queries and targets -/

/-- Adds pairs to the query; a query that stays empty is none. -/
def addQuery (u : Url) (pairs : List (String × String)) : Url :=
  let old := u.query.getD []
  let added := Form.serialize pairs
  let query := if old.isEmpty then added else if pairs.isEmpty then old else old ++ '&' :: added
  { u with query := if query.isEmpty then none else some query }

/-- The path as text. -/
def pathText (u : Url) : List Char := u.path.flatMap ('/' :: ·)

/-- Path and query, as a request line has them. -/
def target (u : Url) : String :=
  String.ofList (u.pathText ++ match u.query with
    | some q => '?' :: q
    | none => [])

end Url

end WalletConsole.Remote
