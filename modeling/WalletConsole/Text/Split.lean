/-!
# Parts of a text

A text cut at separators. There is one part more than there are separators, so parts may be empty.

* `splitWhere` — the parts
* `splitWhere_of_noSeparator` — a text without separators is one part
-/

namespace WalletConsole.Text

/-- The parts between separators. -/
def splitWhere (isSeparator : Char → Bool) : List Char → List (List Char)
  | [] => [[]]
  | c :: rest =>
    if isSeparator c then [] :: splitWhere isSeparator rest
    else match splitWhere isSeparator rest with
      | [] => [[c]]
      | part :: parts => (c :: part) :: parts

theorem splitWhere_of_noSeparator {isSeparator : Char → Bool} {s : List Char}
    (h : ∀ c ∈ s, isSeparator c = false) : splitWhere isSeparator s = [s] := by
  induction s with
  | nil => rfl
  | cons c rest ih =>
    have hc := h c List.mem_cons_self
    have ihr := ih fun x hx => h x (List.mem_cons_of_mem _ hx)
    simp [splitWhere, hc, ihr]

end WalletConsole.Text
