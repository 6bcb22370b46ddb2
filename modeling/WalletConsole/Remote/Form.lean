import WalletConsole.Text.Split
import WalletConsole.Remote.Percent

/-!
# Queries of names and values

A query carries pairs of a name and a value, as a form does: pairs between `&`, name and value
around `=`, a plus sign for a space, everything else that is not a letter, a digit or one of
`*-._` encoded.

* `Form.serialize` — the query that carries some pairs
* `Form.parse` — the pairs that a query carries
-/

namespace WalletConsole.Remote.Form

open Text

/-! ## Writing -/

/-- Characters that stand for themselves. -/
def isPlain (c : Char) : Bool := c.isAlphanum || c == '*' || c == '-' || c == '.' || c == '_'

/-- A character of a name or value. -/
def encodeChar (c : Char) : List Char :=
  if isPlain c then [c]
  else if c = ' ' then ['+']
  else (String.utf8EncodeChar c).flatMap byteText

/-- A name or a value. -/
def encode (s : String) : List Char := s.toList.flatMap encodeChar

/-- A pair. -/
def encodePair (p : String × String) : List Char := encode p.1 ++ '=' :: encode p.2

/-- The query that carries some pairs. -/
def serialize (pairs : List (String × String)) : List Char :=
  List.intercalate ['&'] (pairs.map encodePair)

/-! ## Reading -/

/-- A name or a value that is meant. -/
def decode (s : List Char) : String :=
  percentDecoded (s.map fun c => if c = '+' then ' ' else c)

/-- A pair; without an equals sign the value is empty. -/
def decodePair (s : List Char) : String × String :=
  (decode (s.takeWhile (· ≠ '=')), decode ((s.dropWhile (· ≠ '=')).drop 1))

/-- The pairs that a query carries. -/
def parse (query : List Char) : List (String × String) :=
  ((splitWhere (· == '&') query).filter fun part => !part.isEmpty).map decodePair

end WalletConsole.Remote.Form
