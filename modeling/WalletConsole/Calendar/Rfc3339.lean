import WalletConsole.Calendar.Scan
import WalletConsole.Calendar.Digits

/-!
# Instants as text

The form in which the backend writes instants, `2024-03-01T12:34:56.789Z`. It is written strictly
and read leniently: parts may lack leading zeros, blanks may stand around them, a blank may take the
place of the `T`, and the time zone may be `UTC` or an offset.

* `Instant.text` — in universal time, with as few groups of three fraction digits as lose nothing
* `Instant.parse` — the instant, or the first reason in reading order why there is none
-/

namespace WalletConsole.Calendar

open Text

/-! ## Writing -/

/-- The fraction of a second: nothing, or three, six or nine digits, whichever suffice. -/
def fractionText (nano : Nat) : List Char :=
  if nano == 0 then []
  else if nano % 1000000 == 0 then '.' :: padded 3 (nano / 1000000)
  else if nano % 1000 == 0 then '.' :: padded 6 (nano / 1000)
  else '.' :: padded 9 nano

/-- Hours, minutes and seconds between colons, then the fraction. -/
def clockText (c : Clock) : List Char :=
  padded 2 c.hour.val ++ ':' :: padded 2 c.minute.val ++ ':' :: padded 2 c.second.val ++
    fractionText c.nano.val

/-- The written form of an instant, as characters. -/
def Instant.chars (t : Instant) : List Char :=
  ymdText t.date ++ 'T' :: clockText t.clock ++ ['Z']

/-- The written form of an instant. -/
def Instant.text (t : Instant) : String := String.ofList t.chars

/-! ## Reading -/

/-- A dash, blanks in front skipped. -/
def looseDash (s : List Char) : Except ParseError (List Char) := expect '-' (trimStart s)

/-- A colon, blanks in front skipped. -/
def looseColon (s : List Char) : Except ParseError (List Char) := expect ':' (trimStart s)

/-- What divides day and clock: a `T` or one blank. -/
def scanDivider : List Char → Except ParseError (List Char)
  | [] => .error .tooShort
  | c :: rest => if c == 'T' || c == 't' || c == ' ' then .ok rest else .error .invalid

/-- The fraction of a second; digits after the ninth are dropped. -/
def scanFraction : List Char → Except ParseError (Fin 1000000000 × List Char)
  | '.' :: s => do
    let (n, rest) ← scanNumber 9 s
    let nano := n * Nat.pow 10 (9 - (s.length - rest.length))
    if h : nano < 1000000000 then .ok (⟨nano, h⟩, rest.dropWhile Char.isDigit)
    else .error .outOfRange
  | s => .ok (⟨0, by decide⟩, s)

/-- A reading of the clock. -/
def scanClock (s : List Char) : Except ParseError (Clock × List Char) := do
  let (hour, s) ← scanBelow 24 s
  let s ← looseColon s
  let (minute, s) ← scanBelow 60 s
  let s ← looseColon s
  let (second, s) ← scanBelow 61 s
  let (nano, s) ← scanFraction s
  return (⟨hour, minute, second, nano⟩, s)

/-- A pair of digits; `highTens` is the greatest first digit. -/
def scanPair (highTens : Char) : List Char → Except ParseError (Nat × List Char)
  | a :: b :: rest =>
    if !a.isDigit || !b.isDigit then .error .invalid
    else if highTens < a then .error .outOfRange
    else .ok (ofDigits [a, b], rest)
  | [c] => if c.toNat < 0x80 then .error .tooShort else .error .invalid
  | [] => .error .tooShort

/-- The sign of an offset: is it behind universal time? The minus sign proper is taken too. -/
def scanSign : List Char → Except ParseError (Bool × List Char)
  | [] => .error .tooShort
  | '+' :: rest => .ok (false, rest)
  | '-' :: rest => .ok (true, rest)
  | '−' :: rest => .ok (true, rest)
  | _ :: _ => .error .invalid

/-- A time zone, as the minutes its clocks are ahead of universal time. -/
def scanZone (s : List Char) : Except ParseError (Int × List Char) :=
  match s with
  | 'Z' :: rest | 'z' :: rest => .ok (0, rest)
  | s =>
    if (s.take 3).map Char.toUpper = ['U', 'T', 'C'] then .ok (0, s.drop 3)
    else do
      let (behind, s) ← scanSign s
      let (hours, s) ← scanPair '9' s
      let (minutes, s) ← scanPair '5' (s.dropWhile fun c => c == ':' || isBlank c)
      let offset : Int := hours * 60 + minutes
      return (if behind then -offset else offset, s)

/-- Puts the parts together, if the calendar has them. -/
def assemble (ymd : Int × Nat × Nat) (c : Clock) (offset : Int) : Except ParseError Instant :=
  match Date.ofYmd? ymd.1 ymd.2.1 ymd.2.2 with
  | none => .error .outOfRange
  | some d =>
    if 1440 ≤ offset.natAbs then .error .outOfRange
    else match Instant.ofLocal? d c offset with
      | none => .error .impossible
      | some t => .ok t

/-- Reads an instant from characters. -/
def parseInstant (s : List Char) : Except ParseError Instant := do
  let (ymd, s) ← scanYmd looseDash s
  let s ← scanDivider s
  let (clock, s) ← scanClock s
  let (offset, s) ← scanZone (trimStart s)
  if (trimStart s).isEmpty then assemble ymd clock offset else .error .tooLong

/-- Reads an instant. -/
def Instant.parse (s : String) : Except ParseError Instant := parseInstant s.toList

end WalletConsole.Calendar
