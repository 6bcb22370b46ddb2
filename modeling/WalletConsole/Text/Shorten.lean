/-!
# Long identifiers

A hash or a key is too long for a cell, so its middle is left out.
-/

namespace WalletConsole.Text

/-- The first and the last `keep` characters with an ellipsis between, if that is shorter. -/
def shortenMiddle (keep : Nat) (s : String) : String :=
  let cs := s.toList
  if cs.length ≤ 2 * keep + 1 then s
  else String.ofList (cs.take keep ++ '…' :: cs.drop (cs.length - keep))

end WalletConsole.Text
