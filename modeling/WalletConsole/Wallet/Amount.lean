/-!
# Amounts on the screen

Amounts are kept in thousandths of a satoshi and shown in whole satoshis where they are whole.
-/

namespace WalletConsole

/-- So many thousandths of a satoshi. -/
def msatText (n : Nat) : String :=
  if n % 1000 = 0 then toString (n / 1000) ++ " sats" else toString n ++ " msats"

/-- An amount that may be missing. -/
def showMsat : Option UInt64 → String
  | none => "-"
  | some n => msatText n.toNat

/-- An amount that may be negative. -/
def showSignedMsat (n : Int64) : String :=
  if n < 0 then "-" ++ msatText n.toInt.natAbs else msatText n.toInt.toNat

end WalletConsole
