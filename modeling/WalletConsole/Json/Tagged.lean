import WalletConsole.Json.Decode

/-!
# Records that name their kind

A value with several kinds of record names its kind in one of the fields. That field may come
anywhere in an object, so everything is read before the record is: what is wrong with the text is
reported first, then the kind, then the fields. In a list the kind comes first.

* `Variant` — a kind of record
* `tagged` — the record of the kind that is named
-/

namespace WalletConsole.Json

/-- A kind of record: its name in the text, its name in messages, its fields. -/
structure Variant (α : Type) where
  wire : String
  name : String
  fields : Fields α

/-- A name that picks a value, by itself. -/
def nameOf {α : Type} (names : List (String × α)) : Decoder α
  | .text ⟨.ok s, _⟩ => byName names s
  | d => mismatch "variant identifier" d

/-- How deep the fields may nest: 128 levels are one too many, and the record itself is one. -/
def fieldDepth : Nat := 126

/-- The value of the tag in an object, all members read. -/
def findTag {τ : Type} (tag : String) (decode : Decoder τ) (seen : Option τ) :
    Members → Except DecodeError (Option τ)
  | .member key value rest => do
    let name ← sound key.value
    if name = tag then
      if seen.isSome then .error (.duplicateField tag)
      else findTag tag decode (some (← decode value)) rest
    else
      sound (value.check fieldDepth)
      findTag tag decode seen rest
  | .keyOnly key fault => do
    let name ← sound key.value
    if name = tag && seen.isSome then .error (.duplicateField tag) else .error (.malformed fault)
  | ending => do
    sound ending.ending
    return seen

/-- A record of one of some kinds; messages call them the `internally tagged enum name`. -/
def tagged {α : Type} (name tag : String) (variants : List (Variant α)) : Decoder α
  | .object members => do
    match ← findTag tag (nameOf (variants.map fun v => (v.wire, v))) none members with
    | none => .error (.missingField tag)
    | some v => v.fields.ofMembers members
  | .list (.item first rest) => do
    let v ← nameOf (variants.map fun v => (v.wire, v)) first
    -- the list behind the tag is kept whole before it is read
    sound (rest.check fieldDepth)
    let (x, left) ← v.fields.ofItems ("struct variant " ++ name ++ "::" ++ v.name) rest
    if left.length = 0 then return x
    else
      let n := v.fields.slots.length
      .error (.invalidLength rest.length
        (toString n ++ (if n = 1 then " element in sequence" else " elements in sequence")))
  | .list ending => do
    sound ending.ending
    .error (.missingField tag)
  | d => mismatch ("internally tagged enum " ++ name) d

end WalletConsole.Json
