/-!
# Counting in machine words

Positions and counts of a table are words of 64 bits. They are kept as natural numbers; the
operations that can leave the words check that they do not, and where they would there is no result.

* `Miscount` — why there is no result
* `Word.add`, `Word.sub`, `Word.mul`, `Word.ceilDiv` — arithmetic that stays in the words
* `Word.add_of_lt` and the like — within the words it is the arithmetic of numbers
-/

namespace WalletConsole

/-- Why there is no result. -/
inductive Miscount where
  | adding
  | subtracting
  | multiplying
  | dividing
  deriving DecidableEq, Repr

/-- What is said of it. -/
def Miscount.message : Miscount → String
  | .adding => "attempt to add with overflow"
  | .subtracting => "attempt to subtract with overflow"
  | .multiplying => "attempt to multiply with overflow"
  | .dividing => "attempt to divide by zero"

namespace Word

/-- The number of words. -/
def size : Nat := UInt64.size

/-- The sum of two words. -/
def add (a b : Nat) : Except Miscount Nat := if a + b < size then .ok (a + b) else .error .adding

/-- The difference of two words. -/
def sub (a b : Nat) : Except Miscount Nat := if b ≤ a then .ok (a - b) else .error .subtracting

/-- The product of two words. -/
def mul (a b : Nat) : Except Miscount Nat :=
  if a * b < size then .ok (a * b) else .error .multiplying

/-- The quotient of two words, rounded up. -/
def ceilDiv (a b : Nat) : Except Miscount Nat :=
  if b = 0 then .error .dividing
  else if a % b = 0 then .ok (a / b)
  else add (a / b) 1

variable {a b : Nat}

theorem add_of_lt (h : a + b < size) : add a b = .ok (a + b) := if_pos h

theorem add_of_ge (h : size ≤ a + b) : add a b = .error .adding := if_neg (Nat.not_lt.mpr h)

theorem sub_of_le (h : b ≤ a) : sub a b = .ok (a - b) := if_pos h

theorem mul_of_lt (h : a * b < size) : mul a b = .ok (a * b) := if_pos h

theorem mul_of_ge (h : size ≤ a * b) : mul a b = .error .multiplying := if_neg (Nat.not_lt.mpr h)

end Word

end WalletConsole
