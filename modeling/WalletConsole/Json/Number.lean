import WalletConsole.Text.Utf8
import WalletConsole.Decimal.Shortest
import WalletConsole.Json.Fault

/-!
# Numbers in JSON text

A number is a 64-bit word if it is written without fraction and exponent and fits; every other
number is a float. The float is the one that is got by scaling the leading digits, which is not
always the nearest.

* `Spelling` — the parts of a written number
* `scanNumber` — the number at the front of a text
* `Spelling.value` — what it means
-/

namespace WalletConsole.Json

open Text

/-- A number that was read. -/
inductive Number where
  | natural (n : UInt64)
  | negative (n : Int64)
  | float (x : Float)
  deriving Repr

/-- How a message shows a number. -/
def Number.text : Number → String
  | .natural n => toString n.toNat
  | .negative n => toString n.toInt
  | .float x => Decimal.floatText x

/-! ## Reading in two ways

A value that somebody asked for is read with care. A value that nobody asked for is only skipped,
and then some faults go unnoticed and others are described in other words.
-/

/-- What comes of a part of the text when it is read and when it is skipped. -/
structure Reading (α : Type) where
  value : Except Fault α
  skipped : Except Fault Unit

/-- A part of the text without fault. -/
def Reading.sound {α : Type} (x : α) : Reading α := ⟨.ok x, .ok ()⟩

/-- A fault as the one who reads describes it and as the one who skips does. -/
structure Account where
  read : Fault
  skip : Fault

/-- A part of the text that is at fault either way. -/
def Account.reading {α : Type} (a : Account) : Reading α := ⟨.error a.read, .error a.skip⟩

/-! ## The written form -/

/-- The parts of a written number, digits as numbers below ten. -/
structure Spelling where
  isNegative : Bool
  whole : List Nat
  fraction : List Nat
  /-- is the exponent negative, and its digits -/
  exponent : Option (Bool × List Nat)
  /-- is it written without fraction and exponent? -/
  isWhole : Bool
  deriving DecidableEq, Repr

/-- The value of a decimal digit. -/
def digit? : Piece → Option Nat
  | .char c => if c.isDigit then some (c.toNat - '0'.toNat) else none
  | .bad _ => none

/-- The digits at the front, and what follows them. -/
def scanDigits : List Piece → List Nat × List Piece
  | [] => ([], [])
  | p :: rest =>
    match digit? p with
    | none => ([], p :: rest)
    | some d => (d :: (scanDigits rest).1, (scanDigits rest).2)

/-- At least one digit. A text that ends here has ended too early, for one who reads it. -/
def scanSomeDigits (s : List Piece) : Except Account (List Nat × List Piece) :=
  match scanDigits s with
  | ([], []) => .error ⟨.endOfValue, .invalidNumber⟩
  | ([], _ :: _) => .error ⟨.invalidNumber, .invalidNumber⟩
  | found => .ok found

/-- The digits before the point: more than one of them if the first is not zero. -/
def scanWhole (s : List Piece) : Except Account (List Nat × List Piece) :=
  match scanSomeDigits s with
  | .ok (0 :: _ :: _, _) => .error ⟨.invalidNumber, .invalidNumber⟩
  | found => found

/-- The fraction, if a point follows. -/
def scanFraction : List Piece → Except Account (Option (List Nat) × List Piece)
  | .char '.' :: s => do
    let (ds, rest) ← scanSomeDigits s
    return (some ds, rest)
  | s => .ok (none, s)

/-- The sign of an exponent: is it negative? -/
def scanExponentSign : List Piece → Bool × List Piece
  | .char '+' :: s => (false, s)
  | .char '-' :: s => (true, s)
  | s => (false, s)

/-- The exponent, if one follows. -/
def scanExponent (s : List Piece) : Except Account (Option (Bool × List Nat) × List Piece) :=
  match s with
  | .char 'e' :: s | .char 'E' :: s => do
    let (isNegative, s) := scanExponentSign s
    let (ds, rest) ← scanSomeDigits s
    return (some (isNegative, ds), rest)
  | s => .ok (none, s)

/-- The sign of a number: is it negative? -/
def scanSign : List Piece → Bool × List Piece
  | .char '-' :: s => (true, s)
  | s => (false, s)

/-- The spelling at the front of a text, or why there is none. -/
def scanSpelling (s : List Piece) : Except Account (Spelling × List Piece) := do
  let (isNegative, s) := scanSign s
  let (whole, s) ← scanWhole s
  let (fraction, s) ← scanFraction s
  let (exponent, s) ← scanExponent s
  return (⟨isNegative, whole, fraction.getD [], exponent, fraction.isNone && exponent.isNone⟩, s)

/-! ## The value -/

/-- The number that a row of digits writes. -/
def ofDecimalDigits (ds : List Nat) : Nat := ds.foldl (fun n d => 10 * n + d) 0

/-- The digits in front as far as they fit in 64 bits, after the number `n`, and the digits left. -/
def takeFitting (n : Nat) : List Nat → Nat × List Nat
  | [] => (n, [])
  | d :: ds => if 10 * n + d < UInt64.size then takeFitting (10 * n + d) ds else (n, d :: ds)

/-- A power of ten up to `1e308`. -/
def powerOfTen (n : Nat) : Float := Float.ofScientific 1 false n

/-- Divides by a power of ten in steps that are floats. -/
def scaleDown (x : Float) (n : Nat) : Float :=
  if n ≤ 308 then x / powerOfTen n
  else if x == 0 then x
  else scaleDown (x / powerOfTen 308) (n - 308)
termination_by n

/-- Multiplies by a power of ten, if the product is a float. -/
def scaleUp (x : Float) (n : Nat) : Except Fault Float :=
  if n ≤ 308 then
    let y := x * powerOfTen n
    if y.isInf then .error .numberOutOfRange else .ok y
  else if x == 0 then .ok x
  else .error .numberOutOfRange

/-- A significand scaled by a power of ten. -/
def scaled (significand : Nat) (exponent : Int) : Except Fault Float :=
  let x := significand.toUInt64.toFloat
  if 0 ≤ exponent then scaleUp x exponent.toNat else .ok (scaleDown x exponent.natAbs)

/-- Exponents are kept within 32 bits. -/
def clampExponent (e : Int) : Int := max Int32.minValue.toInt (min Int32.maxValue.toInt e)

/-- The magnitude of a float: digits that do not fit are dropped, and count for the exponent. -/
def Spelling.magnitude (w : Spelling) : Except Fault Float :=
  let (n, dropped) := takeFitting 0 w.whole
  let (significand, unused) := takeFitting n w.fraction
  let shift : Int := dropped.length - (w.fraction.length - unused.length : Nat)
  match w.exponent with
  -- each digit of the fraction that counts makes it ten times smaller
  | none => scaled significand shift
  | some (isNegative, ds) =>
    let e : Int := ofDecimalDigits ds
    if e ≤ Int32.maxValue.toInt then
      scaled significand (clampExponent (if isNegative then shift - e else shift + e))
    -- zero stays zero, whatever its exponent
    else if significand ≠ 0 && !isNegative then .error .numberOutOfRange
    else .ok 0

/-- What a spelling means. Minus zero and what is below all words are floats. -/
def Spelling.value (w : Spelling) : Except Fault Number :=
  match w.isWhole, takeFitting 0 w.whole with
  | true, (n, []) =>
    if !w.isNegative then .ok (.natural n.toUInt64)
    else if n ≠ 0 && n ≤ UInt64.size / 2 then .ok (.negative (Int64.ofInt (-n)))
    else .ok (.float (-n.toUInt64.toFloat))
  | _, _ => do
    let x ← w.magnitude
    return .float (if w.isNegative then -x else x)

/-- The number at the front of a text, and what follows it. -/
def scanNumber (s : List Piece) : Reading Number × List Piece :=
  match scanSpelling s with
  | .ok (w, rest) => (⟨w.value, .ok ()⟩, rest)
  | .error account => (account.reading, s)

end WalletConsole.Json
