/-!
# The shortest decimal of a float

A finite double is an exact fraction. Among the decimals that are read back as the same double,
the one with the fewest digits is written, and of those the nearest. All arithmetic is exact, on
natural numbers.

* `Binary.ofFloat` — the fraction `mantissa · 2 ^ exponent` of a positive double
* `Binary.shortest` — its decimal
* `floatText` — positional from `1e-5` up to `1e16`, else with an exponent that always has a sign
-/

namespace WalletConsole

/-- The decimal `digits · 10 ^ exponent`. -/
structure Decimal where
  digits : Nat
  exponent : Int
  deriving DecidableEq, Repr

namespace Decimal

/-! ## The fraction -/

/-- The fraction `mantissa · 2 ^ exponent`. -/
structure Binary where
  mantissa : Nat
  exponent : Int
  deriving DecidableEq, Repr

/-- The bit in front of the fraction of a double. -/
def leadingBit : Nat := Nat.pow 2 52

/-- The bit in front of all others, which is set below zero. -/
def signBit : Nat := Nat.pow 2 63

/-- The fraction of a double that is positive and finite, from the bits after its sign. -/
def Binary.ofBits (bits : Nat) : Binary :=
  let fraction := bits % leadingBit
  match bits / leadingBit with
  | 0 => ⟨fraction, -1074⟩
  | e + 1 => ⟨leadingBit + fraction, (e : Int) - 1074⟩

/-- The fraction of the magnitude of a finite double. -/
def Binary.ofFloat (x : Float) : Binary := .ofBits (x.toBits.toNat % signBit)

/-- The fraction as numerator and denominator. -/
def Binary.ratio (b : Binary) : Nat × Nat :=
  if 0 ≤ b.exponent then (b.mantissa * Nat.pow 2 b.exponent.toNat, 1)
  else (b.mantissa, Nat.pow 2 b.exponent.natAbs)

/-! ## Decimals -/

/-- How many decimal digits a number has; zero has none. -/
def width (n : Nat) : Nat := if n = 0 then 0 else (Nat.toDigits 10 n).length

/-- The power of ten of the first digit of `num / den`. -/
def magnitude (num den : Nat) : Int :=
  if den ≤ num then (width (num / den) : Int) - 1
  else -(width ((den + num - 1) / num - 1) : Int)

/-- `num / den` in units of `10 ^ exponent`, as a fraction. -/
def inUnits (num den : Nat) (exponent : Int) : Nat × Nat :=
  if 0 ≤ exponent then (num, den * Nat.pow 10 exponent.toNat)
  else (num * Nat.pow 10 exponent.natAbs, den)

/--
Is the decimal of `n` units read back as the double? Four times the double is `center / unit` of
them, and the next double is `4 * step / unit` away. Read back is what lies between the points half
way to the neighbouring doubles, those points themselves for an even mantissa. Below a power of two
the neighbour is half as far away.
-/
def readsBack (b : Binary) (unit n center step : Nat) : Bool :=
  let below := if b.mantissa = leadingBit && -1074 < b.exponent then step else 2 * step
  let low := center - below
  let high := center + 2 * step
  if b.mantissa % 2 = 0 then low ≤ 4 * n * unit && 4 * n * unit ≤ high
  else low < 4 * n * unit && 4 * n * unit < high

/-- The decimal of `count` digits that is read back as the double, if there is one. -/
def onGrid? (b : Binary) (count : Nat) : Option Decimal :=
  let exponent := magnitude b.ratio.1 b.ratio.2 + 1 - count
  let (num, den) := inUnits b.ratio.1 b.ratio.2 exponent
  let step := num / b.mantissa
  let n := num / den
  let lower := readsBack b den n (4 * num) step
  let upper := readsBack b den (n + 1) (4 * num) step
  let upperNearer := den < 2 * (num % den) || (den = 2 * (num % den) && n % 2 = 1)
  -- of two neighbours that are read back, the nearer one; of two as near, the even one
  if lower && upper then some ⟨if upperNearer then n + 1 else n, exponent⟩
  else if lower then some ⟨n, exponent⟩
  else if upper then some ⟨n + 1, exponent⟩
  else none

/-- Without zeros at the end; `fuel` bounds their number. -/
def stripped : (fuel : Nat) → Decimal → Decimal
  | 0, d => d
  | fuel + 1, d =>
    if d.digits ≠ 0 && d.digits % 10 = 0 then stripped fuel ⟨d.digits / 10, d.exponent + 1⟩
    else d

/-- The shortest decimal of a positive double: seventeen digits always suffice. -/
def Binary.shortest (b : Binary) : Decimal :=
  match (List.range 17).findSome? fun k => onGrid? b (k + 1) with
  | some d => d.stripped 17
  | none => ⟨0, 0⟩

/-! ## Written form -/

/-- An exponent: its sign and its digits. -/
def exponentText (e : Int) : List Char :=
  (if e < 0 then '-' else '+') :: Nat.toDigits 10 e.natAbs

/-- A positive decimal. -/
def text (d : Decimal) : List Char :=
  let ds := Nat.toDigits 10 d.digits
  let point : Int := ds.length + d.exponent
  -- whole numbers, numbers with a point inside, numbers below one, and all others
  if 0 ≤ d.exponent && point ≤ 16 then
    ds ++ List.replicate d.exponent.toNat '0' ++ ['.', '0']
  else if 0 < point && point ≤ 16 then
    ds.take point.toNat ++ '.' :: ds.drop point.toNat
  else if -5 < point && point ≤ 0 then
    '0' :: '.' :: (List.replicate point.natAbs '0' ++ ds)
  else
    let tail := if ds.length ≤ 1 then [] else '.' :: ds.drop 1
    ds.take 1 ++ tail ++ 'e' :: exponentText (point - 1)

/-- A finite double. -/
def floatText (x : Float) : String :=
  let bits := x.toBits.toNat
  let sign := if signBit ≤ bits then ['-'] else []
  let magnitude := if bits % signBit = 0 then "0.0".toList else (Binary.ofFloat x).shortest.text
  String.ofList (sign ++ magnitude)

end Decimal

end WalletConsole
