import WalletConsole.Json.Number

/-!
# Strings in JSON text

What stands between two quotes. One who reads a string pairs surrogates and wants every byte to
belong to a character; one who skips it looks only for its end.

* `scanText` — the string, and what follows its closing quote
* `skipText` — only what follows
-/

namespace WalletConsole.Json

open Text

/-! ## Escapes -/

/-- What a backslash and one letter stand for. -/
def escaped? : Char → Option Char
  | '"' => some '"'
  | '\\' => some '\\'
  | '/' => some '/'
  | 'b' => some '\x08'
  | 'f' => some '\x0c'
  | 'n' => some '\n'
  | 'r' => some '\r'
  | 't' => some '\t'
  | _ => none

/-- The value of a hexadecimal digit. -/
def hexValue? : Piece → Option Nat
  | .char c =>
    if c.isDigit then some (c.toNat - '0'.toNat)
    else if 'a' ≤ c && c ≤ 'f' then some (c.toNat - 'a'.toNat + 10)
    else if 'A' ≤ c && c ≤ 'F' then some (c.toNat - 'A'.toNat + 10)
    else none
  | .bad _ => none

/-- Four hexadecimal digits. A text ends too early if fewer than four bytes are left. -/
def hexUnit (s : List Piece) : Except Fault Nat :=
  if byteCount (s.take 4) < 4 then .error .endOfText
  else match (s.take 4).mapM hexValue? with
    | some [a, b, c, d] => .ok (4096 * a + 256 * b + 16 * c + d)
    | _ => .error .invalidEscape

/-- Is it the first half of a surrogate pair? -/
def isHighSurrogate (n : Nat) : Bool := 0xD800 ≤ n && n ≤ 0xDBFF

/-- Is it the second half of a surrogate pair? -/
def isLowSurrogate (n : Nat) : Bool := 0xDC00 ≤ n && n ≤ 0xDFFF

/-- The character of a pair of surrogates. -/
def ofPair (high low : Nat) : Char :=
  Char.ofNat (0x10000 + 0x400 * (high - 0xD800) + (low - 0xDC00))

/-- The second half of a pair, after the first half. -/
def scanLow (high : Nat) : List Piece → Except Fault Char
  | [] => .error .endOfText
  | [.char '\\'] => .error .endOfText
  | .char '\\' :: .char 'u' :: s => do
    let low ← hexUnit s
    if isLowSurrogate low then .ok (ofPair high low) else .error .loneSurrogate
  | _ => .error .unfinishedPair

/-- What stands after a backslash: the character that is meant and the number of pieces. -/
def scanEscape : List Piece → Except Fault (Char × Nat)
  | [] => .error .endOfText
  | .bad _ :: _ => .error .invalidEscape
  | .char 'u' :: s => do
    let n ← hexUnit s
    if isLowSurrogate n then .error .loneSurrogate
    else if isHighSurrogate n then return (← scanLow n (s.drop 4), 11)
    else .ok (Char.ofNat n, 5)
  | .char c :: _ =>
    match escaped? c with
    | some d => .ok (d, 1)
    | none => .error .invalidEscape

/-- The number of pieces after a backslash that belong to it, whatever is meant. -/
def skipEscape : List Piece → Except Fault Nat
  | [] => .error .endOfText
  | .bad _ :: _ => .error .invalidEscape
  | .char 'u' :: s => (hexUnit s).map fun _ => 5
  | .char c :: _ => if (escaped? c).isSome then .ok 1 else .error .invalidEscape

/-! ## Strings -/

/-- Characters that a string may not hold as they are. -/
def isControl (c : Char) : Bool := c.toNat < 0x20

/--
The rest of a string and what follows its closing quote. `before` holds the characters so far,
backwards, and `broken` whether bytes have been met that belong to no character.
-/
def scanText (broken : Bool) (before : List Char) :
    List Piece → Except Fault (String × List Piece)
  | [] => .error .endOfText
  | .bad _ :: s => scanText true before s
  | .char c :: s =>
    if c = '"' then
      if broken then .error .invalidCharacter else .ok (String.ofList before.reverse, s)
    else if c = '\\' then
      match scanEscape s with
      | .error fault => .error fault
      | .ok (d, n) => scanText broken (d :: before) (s.drop n)
    else if isControl c then .error .controlCharacter
    else scanText broken (c :: before) s
termination_by s => s.length
decreasing_by all_goals simp only [List.length_drop, List.length_cons]; omega

/-- What follows the closing quote of a string. -/
def skipText : List Piece → Except Fault (List Piece)
  | [] => .error .endOfText
  | .bad _ :: s => skipText s
  | .char c :: s =>
    if c = '"' then .ok s
    else if c = '\\' then
      match skipEscape s with
      | .error fault => .error fault
      | .ok n => skipText (s.drop n)
    else if isControl c then .error .controlCharacter
    else skipText s
termination_by s => s.length
decreasing_by all_goals simp only [List.length_drop, List.length_cons]; omega

/-- A string after its opening quote, read and skipped, and what follows it. -/
def readText (s : List Piece) : Reading String × List Piece :=
  let value := (scanText false [] s).map (·.1)
  match skipText s with
  | .ok rest => (⟨value, .ok ()⟩, rest)
  | .error fault => (⟨value, .error fault⟩, [])

end WalletConsole.Json
