import WalletConsole.Text.CaseTable
import WalletConsole.Text.Blank

/-!
# Upper and lower case

Full Unicode case mapping of text. A character may map to several (`İ` to `i̇`, `ß` to `SS`), and
one mapping looks at its surroundings: a capital sigma at the end of a word becomes `ς`, anywhere
else `σ`.

* `lower`, `upper` — a whole text
* `capitalize` — the first character in upper case, the rest unchanged
* `compareFolded` — the order of two texts when case does not matter
* `occursIn` — a text in a text
-/

namespace WalletConsole.Text

/-! ## Single characters -/

/-- Moves a code point by the run that holds it, if there is one. -/
def shiftBy (runs : List CaseRun) (n : Nat) : Option Nat :=
  (runs.find? (·.holds n)).map fun r => (Int.ofNat n + r.shift).toNat

/-- The lower case of a character on its own. -/
def lowerChar (c : Char) : List Char :=
  if c.toNat < 0x80 then [c.toLower]
  else if c = 'İ' then ['i', Char.ofNat 0x307]
  else match shiftBy lowerRuns c.toNat with
    | some n => [Char.ofNat n]
    | none => [c]

/-- The upper case of a character. -/
def upperChar (c : Char) : List Char :=
  if c.toNat < 0x80 then [c.toUpper]
  else match upperExpansions.lookup c.toNat with
    | some ns => ns.map Char.ofNat
    | none => match shiftBy upperRuns c.toNat with
      | some n => [Char.ofNat n]
      | none => [c]

/-! ## Sigma at the end of a word -/

/-- Is the first character that interrupts a word or belongs to it a letter with case? -/
def startsCased (s : List Char) : Bool :=
  match s.dropWhile fun c => inRanges ignorableRanges c.toNat with
  | [] => false
  | c :: _ => inRanges casedRanges c.toNat

/-- The lower case of a capital sigma: `before` is the text in front of it, read backwards. -/
def lowerSigma (before after : List Char) : Char :=
  if startsCased before && !startsCased after then 'ς' else 'σ'

/-! ## Whole texts -/

/-- Lower case of the rest of a text, of which `before` has been read (and is kept backwards). -/
def lowerFrom (before : List Char) : List Char → List Char
  | [] => []
  | c :: rest =>
    (if c = 'Σ' then [lowerSigma before rest] else lowerChar c) ++ lowerFrom (c :: before) rest

/-- The text in lower case. -/
def lower (s : List Char) : List Char := lowerFrom [] s

/-- The text in upper case. -/
def upper (s : List Char) : List Char := s.flatMap upperChar

/-- The text in lower case. -/
def lowered (s : String) : String := String.ofList (lower s.toList)

/-- The first character in upper case. -/
def capitalize (s : String) : String :=
  match s.toList with
  | [] => ""
  | c :: rest => String.ofList (upperChar c ++ rest)

/-! ## Direction and search -/

/-- The order of two texts in lower case, by code point. -/
def compareFolded (a b : String) : Ordering := compare (lowered a) (lowered b)

/-- Does `needle` occur in the text, character for character and without a gap? -/
def occursIn (needle : List Char) : List Char → Bool
  | [] => needle.isEmpty
  | c :: rest => needle.isPrefixOf (c :: rest) || occursIn needle rest

/-- Occurring is being a contiguous part. -/
theorem occursIn_iff {needle s : List Char} : occursIn needle s = true ↔ needle <:+: s := by
  induction s with
  | nil => simp [occursIn]
  | cons c rest ih => simp [occursIn, ih, List.infix_cons_iff]

end WalletConsole.Text
