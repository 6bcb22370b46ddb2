/-!
# Text that arrives as bytes

Bytes read as UTF-8. Where they are not well formed the reading goes on: a `Piece` is a character
or a run of bytes that belongs to none, the longest start of a character that is there (so one
broken character is one run).

* `pieces` — the pieces of a row of bytes
* `Piece.ofString` — the pieces of a text, all of them characters
* `lossy` — the text, with a replacement character for each run that belongs to none
-/

namespace WalletConsole.Text

/-- A character, or so many bytes that belong to no character. -/
inductive Piece where
  | char (c : Char)
  | bad (length : Nat)
  deriving DecidableEq, Repr

/-- The pieces of a text. -/
def Piece.ofString (s : String) : List Piece := s.toList.map .char

/-- The character that a piece is, if it is one. -/
def Piece.char? : Piece → Option Char
  | .char c => some c
  | .bad _ => none

/-- The number of bytes of a piece. -/
def Piece.size : Piece → Nat
  | .char c => c.utf8Size
  | .bad n => n

/-- The number of bytes of some pieces. -/
def byteCount : List Piece → Nat
  | [] => 0
  | p :: rest => p.size + byteCount rest

/-! ## Well-formed characters -/

/-- What a first byte asks for: the bounds of the second byte and the number of further bytes. -/
structure Lead where
  low : Nat
  high : Nat
  more : Nat
  deriving DecidableEq, Repr

/-- What the first byte of a character that is not ASCII asks for. -/
def lead? (b : Nat) : Option Lead :=
  if 0xC2 ≤ b && b ≤ 0xDF then some ⟨0x80, 0xBF, 1⟩
  else if b = 0xE0 then some ⟨0xA0, 0xBF, 2⟩
  else if b = 0xED then some ⟨0x80, 0x9F, 2⟩
  else if 0xE1 ≤ b && b ≤ 0xEF then some ⟨0x80, 0xBF, 2⟩
  else if b = 0xF0 then some ⟨0x90, 0xBF, 3⟩
  else if 0xF1 ≤ b && b ≤ 0xF3 then some ⟨0x80, 0xBF, 3⟩
  else if b = 0xF4 then some ⟨0x80, 0x8F, 3⟩
  else none

/-- The bytes that go on with a character: at most `more`, the first of them within the bounds. -/
def following (low high : Nat) : (more : Nat) → List UInt8 → List Nat
  | 0, _ => []
  | _ + 1, [] => []
  | more + 1, b :: rest =>
    if low ≤ b.toNat && b.toNat ≤ high then b.toNat :: following 0x80 0xBF more rest else []

/-- The code point of a first byte and the bytes that go on with it. -/
def codePoint (first : Nat) (more : List Nat) : Nat :=
  let bits := match more.length with
    -- the more bytes follow, the fewer bits the first one has
    | 1 => first - 0xC0
    | 2 => first - 0xE0
    | _ => first - 0xF0
  more.foldl (fun n b => 64 * n + (b - 0x80)) bits

/-- The piece at the front, and how many bytes after the first one belong to it. -/
def firstPiece (b : UInt8) (rest : List UInt8) : Piece × Nat :=
  if b.toNat < 0x80 then (.char (Char.ofNat b.toNat), 0)
  else match lead? b.toNat with
    | none => (.bad 1, 0)
    | some lead =>
      let more := following lead.low lead.high lead.more rest
      if more.length = lead.more then (.char (Char.ofNat (codePoint b.toNat more)), more.length)
      else (.bad (1 + more.length), more.length)

/-- The pieces of a row of bytes. -/
def pieces : List UInt8 → List Piece
  | [] => []
  | b :: rest => (firstPiece b rest).1 :: pieces (rest.drop (firstPiece b rest).2)
termination_by bytes => bytes.length
decreasing_by simp only [List.length_drop, List.length_cons]; omega

/-- The text of some bytes; what belongs to no character becomes `U+FFFD`. -/
def lossy (bytes : List UInt8) : String :=
  String.ofList ((pieces bytes).map fun
    | .char c => c
    | .bad _ => Char.ofNat 0xFFFD)

end WalletConsole.Text
