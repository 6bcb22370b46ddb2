import WalletConsole.Text.Blank
import WalletConsole.Calendar.Date

/-!
# Reading numbers of a date

The parts that the written forms of dates share: numbers of a limited width with blanks allowed in
front, a year that may be signed and is then as long as it likes, single separators. Whatever
cannot be read has one of six causes, and the first cause in reading order is the one reported.
-/

namespace WalletConsole.Calendar

open Text

/-- Why a text is not the written form of a date or an instant. -/
inductive ParseError where
  /-- a part or the whole lies outside the calendar -/
  | outOfRange
  /-- the instant would lie before the first day or after the last -/
  | impossible
  /-- another character was needed -/
  | invalid
  /-- the text ended too early -/
  | tooShort
  /-- something follows -/
  | tooLong
  deriving DecidableEq, Repr

/-- The wording of an error. -/
def ParseError.message : ParseError → String
  | .outOfRange => "input is out of range"
  | .impossible => "no possible date and time matching input"
  | .invalid => "input contains invalid characters"
  | .tooShort => "premature end of input"
  | .tooLong => "trailing input"

/-! ## Numbers -/

/-- The value of a row of decimal digits. -/
def ofDigits (ds : List Char) : Nat := ds.foldl (fun n c => 10 * n + (c.toNat - '0'.toNat)) 0

/-- The greatest number that is read, the last of 63 bits. -/
def greatestNumber : Nat := 9223372036854775807

/-- A number of at least one digit and at most `width`. -/
def scanNumber (width : Nat) : List Char → Except ParseError (Nat × List Char)
  | [] => .error .tooShort
  | c :: rest =>
    if c.isDigit then
      let ds := ((c :: rest).take width).takeWhile Char.isDigit
      if ofDigits ds ≤ greatestNumber then .ok (ofDigits ds, (c :: rest).drop ds.length)
      else .error .outOfRange
    else .error .invalid

/-- Exactly this character. -/
def expect (wanted : Char) : List Char → Except ParseError (List Char)
  | [] => .error .tooShort
  | c :: rest => if c = wanted then .ok rest else .error .invalid

/-! ## Parts of a date -/

/-- A two-digit number below `bound`, blanks in front skipped. -/
def scanBelow (bound : Nat) (s : List Char) : Except ParseError (Fin bound × List Char) := do
  let (n, rest) ← scanNumber 2 (trimStart s)
  if h : n < bound then .ok (⟨n, h⟩, rest) else .error .outOfRange

/-- A two-digit number from `1` to `bound`, blanks in front skipped. -/
def scanOrdinal (bound : Nat) (s : List Char) : Except ParseError (Nat × List Char) := do
  let (n, rest) ← scanNumber 2 (trimStart s)
  if 1 ≤ n && n ≤ bound then .ok (n, rest) else .error .outOfRange

/-- A year has to fit in 32 bits before the calendar is asked for it. -/
def checkYear (year : Int) (rest : List Char) : Except ParseError (Int × List Char) :=
  if Int32.minValue.toInt ≤ year && year ≤ Int32.maxValue.toInt then .ok (year, rest)
  else .error .outOfRange

/-- A year: at most four digits, or a sign and any number of digits. -/
def scanYear (s : List Char) : Except ParseError (Int × List Char) :=
  match trimStart s with
  | '-' :: rest => do
    let (n, rest) ← scanNumber rest.length rest
    checkYear (-n) rest
  | '+' :: rest => do
    let (n, rest) ← scanNumber rest.length rest
    checkYear n rest
  | s => do
    let (n, rest) ← scanNumber 4 s
    checkYear n rest

/-- Year, month and day, with `dash` reading what stands between them. -/
def scanYmd (dash : List Char → Except ParseError (List Char)) (s : List Char) :
    Except ParseError ((Int × Nat × Nat) × List Char) := do
  let (year, s) ← scanYear s
  let s ← dash s
  let (month, s) ← scanOrdinal 12 s
  let s ← dash s
  let (day, s) ← scanOrdinal 31 s
  return ((year, month, day), s)

end WalletConsole.Calendar
