import WalletConsole.Text.Quoted
import WalletConsole.Calendar.Rfc3339
import WalletConsole.Json.Doc

/-!
# Values read from JSON

A `Decoder` takes a tree and gives a value or the first thing that is wrong with it, in the order
of the text.

* `text`, `word64`, `signed64`, … — scalars
* `nullable`, `sequence`, `choice` — a value or `null`, lists, one of some names
* `Fields` — the fields of a record; each names what it reads once, and the record may be written
  as an object or as a list of its fields in order
-/

namespace WalletConsole.Json

open Text Calendar

/-! ## Errors -/

/-- What was found, for a message. -/
inductive Found where
  | null
  | bool (b : Bool)
  | number (n : Number)
  | text (s : String)
  | list
  | object

/-- How a message shows what was found. -/
def Found.message : Found → String
  | .null => "null"
  | .bool b => "boolean `" ++ (if b then "true" else "false") ++ "`"
  | .number (.float x) => "floating point `" ++ Decimal.floatText x ++ "`"
  | .number n => "integer `" ++ n.text ++ "`"
  | .text s => "string " ++ quoted s
  | .list => "sequence"
  | .object => "map"

/-- Why a text does not say a value of the wanted type. -/
inductive DecodeError where
  /-- the text is not JSON -/
  | malformed (fault : Fault)
  /-- a value of another type -/
  | invalidType (found : Found) (expected : String)
  /-- a value that the type does not have -/
  | invalidValue (found : Found) (expected : String)
  /-- a list that is too short or too long -/
  | invalidLength (length : Nat) (expected : String)
  /-- a list that goes on after a record, and how many items it has -/
  | overlong (length : Nat)
  /-- neither a name nor an object with a name as its only key -/
  | notAName (found : Doc)
  /-- none of the names that are known -/
  | unknownName (name : String) (known : List String)
  | missingField (name : String)
  | duplicateField (name : String)
  /-- a text that is not an instant -/
  | notAnInstant (reason : ParseError)

/-- The names that are known, for a message. -/
def knownNames : List String → String
  | [] => "there are no variants"
  | [a] => "expected `" ++ a ++ "`"
  | [a, b] => "expected `" ++ a ++ "` or `" ++ b ++ "`"
  | names => "expected one of " ++ String.intercalate ", " (names.map fun a => "`" ++ a ++ "`")

/-- The wording of an error. -/
def DecodeError.message : DecodeError → String
  | .malformed fault => fault.message
  | .invalidType found expected => "invalid type: " ++ found.message ++ ", expected " ++ expected
  | .invalidValue found expected => "invalid value: " ++ found.message ++ ", expected " ++ expected
  | .invalidLength n expected => "invalid length " ++ toString n ++ ", expected " ++ expected
  | .overlong _ => Fault.message .trailingCharacters
  | .notAName _ => Fault.message .expectedValue
  | .unknownName name known => "unknown variant `" ++ name ++ "`, " ++ knownNames known
  | .missingField name => "missing field `" ++ name ++ "`"
  | .duplicateField name => "duplicate field `" ++ name ++ "`"
  | .notAnInstant reason => reason.message

/-! ## Scalars -/

/-- Reads a value of some type from a tree. -/
abbrev Decoder (α : Type) := Doc → Except DecodeError α

/-- A part of the text that must be without fault. -/
def sound {α : Type} (r : Except Fault α) : Except DecodeError α := r.mapError .malformed

/-- What stands there, unless the text is at fault. -/
def Doc.found : Doc → Except Fault Found
  | .null => .ok .null
  | .bool b => .ok (.bool b)
  | .number n => n.value.map .number
  | .text s => s.value.map .text
  | .list _ => .ok .list
  | .object _ => .ok .object
  | .broken fault | .missing fault => .error fault

/-- Something else stands there. -/
def mismatch {α : Type} (expected : String) (d : Doc) : Except DecodeError α :=
  match d.found with
  | .ok found => .error (.invalidType found expected)
  | .error fault => .error (.malformed fault)

/-- A string. -/
def text : Decoder String
  | .text ⟨.ok s, _⟩ => .ok s
  | d => mismatch "a string" d

/-- A truth value. -/
def bool : Decoder Bool
  | .bool b => .ok b
  | d => mismatch "a boolean" d

/-- A number from 0 up to a bound. -/
def natural (bound : Nat) (expected : String) : Decoder Nat
  | .number ⟨.ok (.natural n), _⟩ =>
    if n.toNat < bound then .ok n.toNat
    else .error (.invalidValue (.number (.natural n)) expected)
  | .number ⟨.ok (.negative n), _⟩ => .error (.invalidValue (.number (.negative n)) expected)
  | d => mismatch expected d

/-- A word of 64 bits. -/
def word64 (d : Doc) : Except DecodeError UInt64 := (natural UInt64.size "u64" d).map Nat.toUInt64

/-- A count of 64 bits. -/
def count64 (d : Doc) : Except DecodeError UInt64 :=
  (natural UInt64.size "usize" d).map Nat.toUInt64

/-- A word of 16 bits. -/
def word16 (d : Doc) : Except DecodeError UInt16 := (natural UInt16.size "u16" d).map Nat.toUInt16

/-- A signed word of 64 bits. -/
def signed64 : Decoder Int64
  | .number ⟨.ok (.natural n), _⟩ =>
    if n.toNat < UInt64.size / 2 then .ok (Int64.ofNat n.toNat)
    else .error (.invalidValue (.number (.natural n)) "i64")
  | .number ⟨.ok (.negative n), _⟩ => .ok n
  | d => mismatch "i64" d

/-- An instant. -/
def instant : Decoder Instant
  | .text ⟨.ok s, _⟩ => (Instant.parse s).mapError .notAnInstant
  | d => mismatch "an RFC 3339 formatted date and time string" d

/-! ## Compound values -/

/-- A value or `null`. -/
def nullable {α : Type} (decode : Decoder α) : Decoder (Option α)
  | .null => .ok none
  | d => (decode d).map some

/-- The items of a list. -/
def items {α : Type} (decode : Decoder α) : Items → Except DecodeError (List α)
  | .item value rest => do
    let x ← decode value
    let xs ← items decode rest
    return x :: xs
  | ending => do
    sound ending.ending
    return []

/-- A list. -/
def sequence {α : Type} (decode : Decoder α) : Decoder (List α)
  | .list xs => items decode xs
  | d => mismatch "a sequence" d

/-- The value with this name. -/
def byName {α : Type} (names : List (String × α)) (name : String) : Except DecodeError α :=
  match names.lookup name with
  | some x => .ok x
  | none => .error (.unknownName name (names.map (·.1)))

/-- Nothing but `null`. -/
def unit : Decoder Unit
  | .null => .ok ()
  | d => mismatch "unit" d

/-- One member, whose key picks a value and which says nothing else. -/
def onlyKey {α : Type} (names : List (String × α)) : Members → Except DecodeError α
  | .member key value rest => do
    let x ← byName names (← sound key.value)
    unit value
    match rest with
    | .closed => return x
    | .ended => .error (.malformed .endOfObject)
    | _ => .error (.notAName (.object (.member key value rest)))
  | .keyOnly key fault => do
    let _ ← byName names (← sound key.value)
    .error (.malformed fault)
  | .notKey _ => .error (.malformed .keyMustBeText)
  | .ended => .error (.malformed .endOfObject)
  | members => .error (.notAName (.object members))

/-- One of some names: a string, or an object with the name as its only key. -/
def choice {α : Type} (names : List (String × α)) : Decoder α
  | .text s => do byName names (← sound s.value)
  | .object members => onlyKey names members
  | .missing .endOfValue => .error (.malformed .endOfValue)
  | d => .error (.notAName d)

/-! ## Records -/

/-- A field that a record has, and what its value must be. -/
structure Slot where
  name : String
  check : Doc → Except DecodeError Unit

/-- The values of fields that were found, and what is wrong if one that is needed is not there. -/
structure Given where
  values : List (String × Doc)
  absent : String → DecodeError

/-- The fields of a record of some type. -/
structure Fields (α : Type) where
  slots : List Slot
  build : Given → Except DecodeError α

namespace Fields

/-- No fields, and always the same value. -/
def always {α : Type} (x : α) : Fields α := ⟨[], fun _ => .ok x⟩

/-- Some fields and then others. -/
def andThen {α β : Type} (f : Fields (α → β)) (x : Fields α) : Fields β :=
  ⟨f.slots ++ x.slots, fun given => do return (← f.build given) (← x.build given)⟩

instance : Applicative Fields where
  pure := always
  seq f x := andThen f (x ())

/-- One field. -/
def slot {α : Type} (name : String) (decode : Decoder α) : Slot :=
  ⟨name, fun d => (decode d).map fun _ => ()⟩

/-- A field that must be there. -/
def required {α : Type} (name : String) (decode : Decoder α) : Fields α :=
  ⟨[slot name decode], fun given =>
    match given.values.lookup name with
    | some d => decode d
    | none => .error (given.absent name)⟩

/-- A field that has a value of its own when it is not there. -/
def defaulted {α : Type} (name : String) (default : α) (decode : Decoder α) : Fields α :=
  ⟨[slot name decode], fun given =>
    match given.values.lookup name with
    | some d => decode d
    | none => .ok default⟩

/-- A field that may be `null` or not there. -/
def optional {α : Type} (name : String) (decode : Decoder α) : Fields (Option α) :=
  defaulted name none (nullable decode)

end Fields

/-- The slot with this name, which must not have been filled. -/
def openSlot (slots : List Slot) (filled : List (String × Doc)) (name : String) :
    Except DecodeError (Option Slot) :=
  match slots.find? (·.name == name) with
  | none => .ok none
  | some slot =>
    if filled.any (·.1 == name) then .error (.duplicateField name) else .ok (some slot)

/-- The values of the fields that an object has; members that are no fields are skipped. -/
def collect (slots : List Slot) (filled : List (String × Doc)) :
    Members → Except DecodeError (List (String × Doc))
  | .member key value rest => do
    let name ← sound key.value
    match ← openSlot slots filled name with
    -- a member that is no field has to be written well, and no more
    | none =>
      sound value.skip
      collect slots filled rest
    | some slot =>
      slot.check value
      collect slots (filled ++ [(name, value)]) rest
  | .keyOnly key fault => do
    let _ ← openSlot slots filled (← sound key.value)
    .error (.malformed fault)
  | ending => do
    sound ending.ending
    return filled

/-- The values of fields that stand in a list in their order, and the rest of the list. -/
def collectInOrder : List Slot → Items → Except DecodeError (List (String × Doc) × Items)
  | [], rest => .ok ([], rest)
  | slot :: slots, .item value rest => do
    slot.check value
    let (filled, rest) ← collectInOrder slots rest
    return ((slot.name, value) :: filled, rest)
  | _ :: _, ending => do
    sound ending.ending
    return ([], ending)

/-- Nothing but the end of the list may follow some items. -/
def Items.close (before : Nat) : Items → Except DecodeError Unit
  | .closed => .ok ()
  | .ended => .error (.malformed .endOfList)
  | .commaClosed => .error (.malformed .trailingComma)
  | .commaEnded | .junk => .error (.malformed .trailingCharacters)
  | rest => .error (.overlong (before + rest.length))

namespace Fields

variable {α : Type} (fields : Fields α)

/-- A list that is too short: the first field that is missing gives its length. -/
def tooShort (expected : String) (name : String) : DecodeError :=
  .invalidLength (fields.slots.findIdx (·.name == name)) expected

/-- What a list of the fields is called in messages. -/
def inOrder (what : String) : String :=
  what ++ " with " ++ toString fields.slots.length ++
    (if fields.slots.length = 1 then " element" else " elements")

/-- The record in an object. -/
def ofMembers (members : Members) : Except DecodeError α := do
  let filled ← collect fields.slots [] members
  fields.build ⟨filled, .missingField⟩

/-- The record in a list, and the rest of the list. -/
def ofItems (what : String) (items : Items) : Except DecodeError (α × Items) := do
  let (filled, rest) ← collectInOrder fields.slots items
  let x ← fields.build ⟨filled, fields.tooShort (fields.inOrder what)⟩
  return (x, rest)

/-- A record with these fields, which messages call `struct name`. -/
def decode (name : String) : Decoder α
  | .object members => fields.ofMembers members
  | .list items => do
    let (x, rest) ← fields.ofItems ("struct " ++ name) items
    rest.close fields.slots.length
    return x
  | d => mismatch ("struct " ++ name) d

end Fields

end WalletConsole.Json
