import WalletConsole.Json.Doc

/-!
# JSON that is written

What the library writes is never at fault, so it has a type of its own. It is written without
blanks; strings escape quotes, backslashes and control characters and nothing else.

* `Value.write` — the text of a value
* `Value.toDoc` — the tree that is read from it
-/

namespace WalletConsole.Json

/-- A value to be written. -/
inductive Value where
  | null
  | bool (b : Bool)
  | natural (n : UInt64)
  | signed (n : Int64)
  | text (s : String)
  | list (items : List Value)
  | object (members : List (String × Value))

/-! ## Writing -/

/-- A number below sixteen as a hexadecimal digit. -/
def hexDigit (n : Nat) : Char := Nat.digitChar n

/-- A character of a string. -/
def escapeChar (c : Char) : List Char :=
  if c = '"' then ['\\', '"']
  else if c = '\\' then ['\\', '\\']
  else if c = '\x08' then ['\\', 'b']
  else if c = '\x0c' then ['\\', 'f']
  else if c = '\n' then ['\\', 'n']
  else if c = '\r' then ['\\', 'r']
  else if c = '\t' then ['\\', 't']
  else if isControl c then
    ['\\', 'u', '0', '0', hexDigit (c.toNat / 16), hexDigit (c.toNat % 16)]
  else [c]

/-- A string between quotes. -/
def quote (s : String) : List Char := '"' :: s.toList.flatMap escapeChar ++ ['"']

/-- The digits of an integer. -/
def integerText (n : Int) : List Char :=
  if n < 0 then '-' :: Nat.toDigits 10 n.natAbs else Nat.toDigits 10 n.natAbs

mutual

/-- The characters of a value. -/
def Value.chars : Value → List Char
  | .null => "null".toList
  | .bool b => (if b then "true" else "false").toList
  | .natural n => integerText n.toNat
  | .signed n => integerText n.toInt
  | .text s => quote s
  | .list [] => ['[', ']']
  | .list (v :: rest) => '[' :: v.chars ++ laterItems rest
  | .object [] => ['\x7b', '\x7d']
  | .object ((key, v) :: rest) => '\x7b' :: quote key ++ ':' :: v.chars ++ laterMembers rest

/-- Items after the first, each behind a comma, then the closing bracket. -/
def laterItems : List Value → List Char
  | [] => [']']
  | v :: rest => ',' :: v.chars ++ laterItems rest

/-- Members after the first, each behind a comma, then the closing brace. -/
def laterMembers : List (String × Value) → List Char
  | [] => ['\x7d']
  | (key, v) :: rest => ',' :: quote key ++ ':' :: v.chars ++ laterMembers rest

end

/-- The text of a value. -/
def Value.write (v : Value) : String := String.ofList v.chars

/-! ## The tree that is read -/

mutual

/-- The tree that is read from the text of a value. -/
def Value.toDoc : Value → Doc
  | .null => .null
  | .bool b => .bool b
  | .natural n => .number (.sound (.natural n))
  | .signed n =>
    .number (.sound (if n < 0 then .negative n else .natural n.toInt.toNat.toUInt64))
  | .text s => .text (.sound s)
  | .list xs => .list (itemsOf xs)
  | .object ms => .object (membersOf ms)

/-- The items of a list that is read. -/
def itemsOf : List Value → Items
  | [] => .closed
  | v :: rest => .item v.toDoc (itemsOf rest)

/-- The members of an object that is read. -/
def membersOf : List (String × Value) → Members
  | [] => .closed
  | (key, v) :: rest => .member (.sound key) v.toDoc (membersOf rest)

end

end WalletConsole.Json
