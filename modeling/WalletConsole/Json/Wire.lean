import WalletConsole.Json.Tagged
import WalletConsole.Json.Value

/-!
# Types that travel as JSON

* `Wire` — a type with its JSON form
* `Wire.read`, `Wire.readBytes` — a value from a whole text, or the first thing wrong with it
* `Wire.write` — the text of a value
-/

namespace WalletConsole.Json

open Text Calendar

/-- A type whose values travel as JSON. -/
class Wire (α : Type) where
  decode : Decoder α
  encode : α → Value

/-- A list travels as a list. -/
instance {α : Type} [Wire α] : Wire (List α) where
  decode := sequence Wire.decode
  encode xs := .list (xs.map Wire.encode)

namespace Wire

variable {α : Type} [Wire α]

/-- A value that is all there is in a text. -/
def readPieces (s : List Piece) : Except DecodeError α := do
  let (d, rest) := Doc.ofPieces s
  let x ← decode d
  if rest.isEmpty then return x else .error (.malformed .trailingCharacters)

/-- A value that is all there is in a text. -/
def read (s : String) : Except DecodeError α := readPieces (Piece.ofString s)

/-- A value that is all there is in a row of bytes. -/
def readBytes (bytes : List UInt8) : Except DecodeError α := readPieces (pieces bytes)

/-- The text of a value. -/
def write (x : α) : String := (encode x).write

end Wire

/-! ## Forms that fields take -/

/-- A value or `null`. -/
def nullableValue {α : Type} (encode : α → Value) : Option α → Value
  | none => .null
  | some x => encode x

/-- An instant. -/
def instantValue (t : Instant) : Value := .text t.text

end WalletConsole.Json
