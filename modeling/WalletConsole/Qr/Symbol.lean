import WalletConsole.Qr.Segment
import WalletConsole.Text.Case
import WalletConsole.Remote.Percent

/-!
# The size of a code

A QR code comes in forty versions, each four modules wider than the one before. The smallest
version is taken that holds the data at the medium level of error correction, and each module is
drawn with as many whole pixels as make the code, with a quiet zone around it, at least as wide as
was asked for.

* `version?` — the version for some bytes
* `pixels?` — the width of the drawing for a text
-/

namespace WalletConsole.Qr

/-- The bytes of data that each version holds. -/
def capacities : List Nat :=
  [16, 28, 44, 64, 86, 108, 124, 154, 182, 216, 254, 290, 334, 365, 415, 453, 507, 563, 627, 669,
   714, 782, 860, 914, 1000, 1062, 1128, 1193, 1267, 1373, 1455, 1541, 1631, 1725, 1812, 1914,
   1992, 2102, 2216, 2334]

/-- The greatest version of each range, with its length fields. -/
def ranges : List (Nat × LengthBits) :=
  [(9, ⟨10, 9, 8, 8⟩), (26, ⟨12, 11, 16, 10⟩), (40, ⟨14, 13, 16, 12⟩)]

/-- The bits that a version holds. -/
def capacityBits (version : Nat) : Nat := 8 * capacities.getD (version - 1) 0

/-- The smallest version that holds so many bits. -/
def smallestVersion? (bits : Nat) : Option Nat :=
  (capacities.findIdx? fun bytes => bits ≤ 8 * bytes).map (· + 1)

/-- The version for some bytes. Its size is found with the length fields of the first range whose
greatest version holds them. -/
def version? (bytes : List Nat) : Option Nat :=
  let parts := segments bytes
  ranges.findSome? fun (greatest, l) =>
    let bits := totalBits l (joined l parts)
    if bits ≤ capacityBits greatest then smallestVersion? bits else none

/-- The modules from side to side, with four on each side that are left free. -/
def sideModules (version : Nat) : Nat := 17 + 4 * version + 8

/-- The width of the drawing of a text in capitals, at least `width` pixels. -/
def pixels? (text : String) (width : Nat) : Option Nat :=
  (version? ((Remote.utf8Bytes (Text.upper text.toList)).map UInt8.toNat)).map fun version =>
    let side := sideModules version
    side * max 1 ((width + side - 1) / side)

end WalletConsole.Qr
