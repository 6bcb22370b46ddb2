import WalletConsole.Text.Utf8

/-!
# Percent encoding

Characters that may not stand in a part of a URL are written as their UTF-8 bytes, each as a
percent sign and two hexadecimal digits.

* `percentEncode` — a text, with the characters of a set encoded
* `percentDecode` — the bytes of a text in which some are encoded
* `percentDecode_byteText` — an encoded byte is read back
-/

namespace WalletConsole.Remote

/-! ## Bytes -/

/-- A number below sixteen as a digit. -/
def upperHexDigit (n : Nat) : Char := Char.ofNat (if n < 10 then 0x30 + n else 0x41 + n - 10)

/-- A percent sign and the two digits of a byte. -/
def byteText (b : UInt8) : List Char :=
  ['%', upperHexDigit (b.toNat / 16), upperHexDigit (b.toNat % 16)]

/-- The value of a byte that is a hexadecimal digit. -/
def hexByte? (b : UInt8) : Option Nat :=
  let n := b.toNat
  if 0x30 ≤ n && n ≤ 0x39 then some (n - 0x30)
  else if 0x41 ≤ n && n ≤ 0x46 then some (n - 0x41 + 10)
  else if 0x61 ≤ n && n ≤ 0x66 then some (n - 0x61 + 10)
  else none

/-- The bytes that are meant; a percent sign without two digits stands for itself. -/
def percentDecode : List UInt8 → List UInt8
  | b :: h :: l :: rest =>
    match b == 0x25, hexByte? h, hexByte? l with
    | true, some h, some l => UInt8.ofNat (16 * h + l) :: percentDecode rest
    | _, _, _ => b :: percentDecode (h :: l :: rest)
  | b :: rest => b :: percentDecode rest
  | [] => []

theorem hexByte?_upperHexDigit : ∀ n < 16,
    hexByte? (UInt8.ofNat (upperHexDigit n).toNat) = some n := by decide

/-- An encoded byte is read back. -/
theorem percentDecode_byteText (b : UInt8) (rest : List UInt8) :
    percentDecode ((byteText b).map (fun c => UInt8.ofNat c.toNat) ++ rest)
      = b :: percentDecode rest := by
  have hb : b.toNat < 256 := b.toNat_lt
  have hhi := hexByte?_upperHexDigit (b.toNat / 16) (by omega)
  have hlo := hexByte?_upperHexDigit (b.toNat % 16) (by omega)
  have hp : (UInt8.ofNat '%'.toNat == 0x25) = true := by decide
  simp only [byteText, List.map_cons, List.map_nil, List.cons_append, List.nil_append,
    percentDecode, hhi, hlo, hp]
  rw [show 16 * (b.toNat / 16) + b.toNat % 16 = b.toNat by omega]
  simp

/-- The UTF-8 bytes of a text. -/
def utf8Bytes (s : List Char) : List UInt8 := s.flatMap String.utf8EncodeChar

/-! ## Texts -/

/-- A text with the characters of a set encoded. -/
def percentEncode (inSet : Char → Bool) (s : List Char) : List Char :=
  s.flatMap fun c => if inSet c then (String.utf8EncodeChar c).flatMap byteText else [c]

/-- The text that is meant. -/
def percentDecoded (s : List Char) : String := Text.lossy (percentDecode (utf8Bytes s))

/-! ## Characters to encode -/

/-- Control characters and everything beyond ASCII are encoded everywhere. -/
def isControlOrWide (c : Char) : Bool := c.toNat < 0x20 || 0x7E < c.toNat

/-- Characters that are encoded in a path. -/
def pathSet (c : Char) : Bool :=
  isControlOrWide c || " \"#<>?`\x7b\x7d^".toList.contains c

/-- Characters that are encoded in a query. -/
def querySet (c : Char) : Bool := isControlOrWide c || " \"#<>'".toList.contains c

end WalletConsole.Remote
