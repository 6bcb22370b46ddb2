/-!
# Segments of a code

The data of a QR code is cut into segments, each written in one of four modes: digits, digits with
capitals and some signs, pairs of bytes that are a Kanji, or plain bytes. A mode that admits fewer
characters takes fewer bits for each, but every segment has a header of its own, so neighbours are
joined where that saves bits.

* `segments` — the data cut wherever the mode can change
* `joined` — the segments after joining
* `Segment.size` — the bits that a segment takes
-/

namespace WalletConsole.Qr

/-! ## Modes -/

/-- How the characters of a segment are written. -/
inductive Mode where
  | numeric
  | alphanumeric
  | byte
  | kanji
  deriving DecidableEq, Repr

/-- The mode in which both can be written. -/
def Mode.join : Mode → Mode → Mode
  | .numeric, .numeric => .numeric
  | .kanji, .kanji => .kanji
  | .numeric, .alphanumeric | .alphanumeric, .numeric | .alphanumeric, .alphanumeric =>
    .alphanumeric
  | _, _ => .byte

/-- The length fields of a range of versions, in bits. -/
structure LengthBits where
  numeric : Nat
  alphanumeric : Nat
  byte : Nat
  kanji : Nat

/-- A run of bytes in one mode. -/
structure Segment where
  mode : Mode
  bytes : Nat
  deriving DecidableEq, Repr

namespace Segment

/-- The bits of the header. -/
def headerBits (l : LengthBits) : Mode → Nat
  | .numeric => 4 + l.numeric
  | .alphanumeric => 4 + l.alphanumeric
  | .byte => 4 + l.byte
  | .kanji => 4 + l.kanji

/-- The bits of the data: ten for three digits, eleven for two signs, thirteen for a Kanji. -/
def dataBits (s : Segment) : Nat :=
  match s.mode with
  | .numeric => (10 * s.bytes + 2) / 3
  | .alphanumeric => (11 * s.bytes + 1) / 2
  | .byte => 8 * s.bytes
  | .kanji => 13 * (s.bytes / 2)

/-- The bits that a segment takes. -/
def size (l : LengthBits) (s : Segment) : Nat := headerBits l s.mode + s.dataBits

/-- Two neighbours as one segment. -/
def join (a b : Segment) : Segment := ⟨a.mode.join b.mode, a.bytes + b.bytes⟩

end Segment

/-! ## Bytes -/

/-- What a byte can be part of. -/
inductive Kind where
  | sign
  | digit
  | capital
  /-- the first byte of a Kanji, whatever second byte follows -/
  | lead
  /-- the first byte of a Kanji, if the second byte is a low one -/
  | lastLead
  /-- a low second byte -/
  | lowTrail
  /-- a high second byte -/
  | highTrail
  | other
  deriving DecidableEq, Repr

/-- The kind of a byte; a first byte may be a low (`0x81` to `0x9f`) or a high second byte, too. -/
def kindOf (b : Nat) : Kind :=
  if b = 0x20 || b = 0x24 || b = 0x25 || b = 0x2A || b = 0x2B || (0x2D ≤ b && b ≤ 0x2F) || b = 0x3A
    then .sign
  else if 0x30 ≤ b && b ≤ 0x39 then .digit
  else if 0x41 ≤ b && b ≤ 0x5A then .capital
  else if (0x81 ≤ b && b ≤ 0x9F) || (0xE0 ≤ b && b ≤ 0xEA) then .lead
  else if b = 0xEB then .lastLead
  else if b = 0x40 || (0x5B ≤ b && b ≤ 0x7E) || b = 0x80 || (0xA0 ≤ b && b ≤ 0xBF) then .lowTrail
  else if (0xC0 ≤ b && b ≤ 0xDF) || (0xEC ≤ b && b ≤ 0xFC) then .highTrail
  else .other

/-- Can the byte follow a first byte of a Kanji? -/
def followsLead (b : Nat) : Bool :=
  match kindOf b with
  | .sign | .digit | .other => false
  | _ => true

/-- Can the byte follow the last of the first bytes? -/
def followsLastLead (b : Nat) : Bool :=
  match kindOf b with
  | .capital | .lowTrail => true
  | .lead => b ≤ 0x9F
  | _ => false

/-! ## Cutting -/

/-- What the bytes so far end in. -/
inductive Reading where
  | nothing
  | numeric
  | alphanumeric
  | byte
  /-- whole Kanji -/
  | kanji
  /-- Kanji, then a first byte -/
  | afterLead
  /-- Kanji, then the last of the first bytes -/
  | afterLastLead
  deriving DecidableEq, Repr

/-- What a byte begins. -/
def begins (b : Nat) : Reading :=
  match kindOf b with
  | .sign | .capital => .alphanumeric
  | .digit => .numeric
  | .lead => .afterLead
  | .lastLead => .afterLastLead
  | _ => .byte

/-- Does a byte go on with what is being read? -/
def goesOn (r : Reading) (b : Nat) : Option Reading :=
  match r, kindOf b with
  | .numeric, .digit => some .numeric
  | .alphanumeric, .sign | .alphanumeric, .capital => some .alphanumeric
  | .byte, .lowTrail | .byte, .highTrail | .byte, .other => some .byte
  -- a first byte waits for its second one
  | .kanji, .lead => some .afterLead
  | .kanji, .lastLead => some .afterLastLead
  | .afterLead, _ => if followsLead b then some .kanji else none
  | .afterLastLead, _ => if followsLastLead b then some .kanji else none
  | _, _ => none

/-- A run that ends with a first byte of its own: the Kanji, then that byte. -/
def withLooseLead (length : Nat) : List Segment :=
  if length = 1 then [⟨.byte, 1⟩] else [⟨.kanji, length - 1⟩, ⟨.byte, 1⟩]

/-- The segments of a run that has come to an end. -/
def closeRun (r : Reading) (length : Nat) : List Segment :=
  match r with
  | .nothing => []
  | .numeric => [⟨.numeric, length⟩]
  | .alphanumeric => [⟨.alphanumeric, length⟩]
  | .byte => [⟨.byte, length⟩]
  | .kanji => [⟨.kanji, length⟩]
  | .afterLead | .afterLastLead => withLooseLead length

/-- The segments of the rest of the data, with a run of some length being read. -/
def segmentsFrom (r : Reading) (length : Nat) : List Nat → List Segment
  | [] => closeRun r length
  | b :: rest =>
    match goesOn r b with
    | some r => segmentsFrom r (length + 1) rest
    -- the run ends in front of the byte, which begins the next one
    | none => closeRun r length ++ segmentsFrom (begins b) 1 rest

/-- The segments of the data, cut wherever the mode can change. -/
def segments (bytes : List Nat) : List Segment := segmentsFrom .nothing 0 bytes

/-! ## Joining -/

/-- Joins the segments with the one in front of them as long as that costs no bits. -/
def joinOnto (l : LengthBits) (last : Segment) : List Segment → List Segment
  | [] => [last]
  | s :: rest =>
    if (last.join s).size l ≤ last.size l + s.size l then joinOnto l (last.join s) rest
    else last :: joinOnto l s rest

/-- The segments after joining. -/
def joined (l : LengthBits) : List Segment → List Segment
  | [] => []
  | s :: rest => joinOnto l s rest

/-- The bits that some segments take. -/
def totalBits (l : LengthBits) : List Segment → Nat
  | [] => 0
  | s :: rest => s.size l + totalBits l rest

end WalletConsole.Qr
