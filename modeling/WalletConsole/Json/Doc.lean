import WalletConsole.Json.Quotation

/-!
# JSON text as a tree

A text is read into a tree whether or not it is JSON: what is wrong with it stays in the tree at
the place where it was found. So the tree can be walked in the order of the text by one who knows
what it should say, and the first thing wrong is reported, be it a fault of the text or a value of
the wrong type.

* `Doc` — the tree, with its lists and objects
* `readDoc` — the tree of the value at the front of a text; what follows the first fault is not
  part of it
* `Doc.get?` — what an object holds under a key
* `Doc.skip` — the first fault of a value nobody asked for
* `Doc.check` — the first fault of a value that is kept whatever it says
-/

namespace WalletConsole.Json

open Text

mutual

/-- A value, or what stands in its place. -/
inductive Doc where
  | null
  | bool (b : Bool)
  | number (n : Reading Number)
  | text (s : Reading String)
  | list (items : Items)
  | object (members : Members)
  /-- a word other than the three that are values -/
  | broken (fault : Fault)
  /-- no value starts here -/
  | missing (fault : Fault)

/-- The rest of a list. -/
inductive Items where
  | item (value : Doc) (rest : Items)
  /-- the closing bracket -/
  | closed
  /-- a comma, then the closing bracket -/
  | commaClosed
  /-- a comma, then the end of the text -/
  | commaEnded
  /-- something else than a comma after an item -/
  | junk
  /-- the end of the text -/
  | ended

/-- The rest of an object. -/
inductive Members where
  | member (key : Reading String) (value : Doc) (rest : Members)
  /-- a key and then no colon -/
  | keyOnly (key : Reading String) (fault : Fault)
  /-- something that is not a key -/
  | notKey (value : Doc)
  /-- the closing brace -/
  | closed
  /-- a comma, then the closing brace -/
  | commaClosed
  /-- a comma, then the end of the text -/
  | commaEnded
  /-- something else than a comma after a member -/
  | junk
  /-- the end of the text -/
  | ended

end

/-! ## Reading -/

/-- The four blanks of JSON. -/
def isSpace : Piece → Bool
  | .char c => c == ' ' || c == '\n' || c == '\t' || c == '\r'
  | .bad _ => false

/-- Without the blanks in front. -/
def skipSpace (s : List Piece) : List Piece := s.dropWhile isSpace

/-- The remaining letters of a word that stands for a value. -/
def scanWord (value : Doc) : List Char → List Piece → Doc × List Piece
  | [], s => (value, s)
  | _ :: _, [] => (.broken .endOfValue, [])
  | c :: word, p :: s => if p = .char c then scanWord value word s else (.broken .expectedWord, s)

mutual

/-- The value at the front of a text, and what follows it. -/
def readDoc : (fuel : Nat) → List Piece → Doc × List Piece
  | 0, s => (.missing .endOfValue, s)
  | fuel + 1, s =>
    match skipSpace s with
    | [] => (.missing .endOfValue, [])
    | .bad n :: s => (.missing .expectedValue, .bad n :: s)
    | .char c :: s =>
      if c = 'n' then scanWord .null "ull".toList s
      else if c = 't' then scanWord (.bool true) "rue".toList s
      else if c = 'f' then scanWord (.bool false) "alse".toList s
      else if c = '"' then ((readText s).1 |> Doc.text, (readText s).2)
      else if c = '-' || c.isDigit then
        ((scanNumber (.char c :: s)).1 |> Doc.number, (scanNumber (.char c :: s)).2)
      else if c = '[' then
        match skipSpace s with
        | [] => (.list .ended, [])
        | p :: s =>
          -- only here may the list end without an item
          if p = .char ']' then (.list .closed, s)
          else ((readItems fuel (p :: s)).1 |> Doc.list, (readItems fuel (p :: s)).2)
      else if c = '\x7b' then
        match skipSpace s with
        | [] => (.object .ended, [])
        | p :: s =>
          -- only here may the object end without a member
          if p = .char '\x7d' then (.object .closed, s)
          else ((readMembers fuel (p :: s)).1 |> Doc.object, (readMembers fuel (p :: s)).2)
      else (.missing .expectedValue, .char c :: s)

/-- The rest of a list, from an item on. -/
def readItems : (fuel : Nat) → List Piece → Items × List Piece
  | 0, s => (.ended, s)
  | fuel + 1, s =>
    let (value, s) := readDoc fuel s
    match skipSpace s with
    | [] => (.item value .ended, [])
    | p :: s =>
      if p = .char ']' then (.item value .closed, s)
      else if p = .char ',' then
        match skipSpace s with
        | [] => (.item value .commaEnded, [])
        | p :: s =>
          if p = .char ']' then (.item value .commaClosed, s)
          else
            let (rest, s) := readItems fuel (p :: s)
            (.item value rest, s)
      else (.item value .junk, p :: s)

/-- The rest of an object, from a member on. -/
def readMembers : (fuel : Nat) → List Piece → Members × List Piece
  | 0, s => (.ended, s)
  | fuel + 1, s =>
    match s with
    | .char '"' :: s =>
      let (key, s) := readText s
      match skipSpace s with
      | [] => (.keyOnly key .endOfObject, [])
      | p :: s =>
        if p ≠ .char ':' then (.keyOnly key .expectedColon, p :: s)
        else
          let (value, s) := readDoc fuel s
          match skipSpace s with
          | [] => (.member key value .ended, [])
          | p :: s =>
            if p = .char '\x7d' then (.member key value .closed, s)
            else if p = .char ',' then
              match skipSpace s with
              | [] => (.member key value .commaEnded, [])
              | p :: s =>
                if p = .char '\x7d' then (.member key value .commaClosed, s)
                else
                  let (rest, s) := readMembers fuel (p :: s)
                  (.member key value rest, s)
            else (.member key value .junk, p :: s)
    | s =>
      let (value, s) := readDoc fuel s
      (.notKey value, s)

end

/-- The tree of a text and whatever follows it; lists and objects nest no deeper than it is long. -/
def Doc.ofPieces (s : List Piece) : Doc × List Piece :=
  let (d, rest) := readDoc (2 * s.length + 2) s
  (d, skipSpace rest)

/-! ## Contents -/

/-- The number of items before the end of a list. -/
def Items.length : Items → Nat
  | .item _ rest => rest.length + 1
  | _ => 0

/-- The value of the first member with this key. -/
def Members.find? (key : String) : Members → Option Doc
  | .member ⟨.ok k, _⟩ value rest => if k = key then some value else rest.find? key
  | .member _ _ rest => rest.find? key
  | _ => none

/-- What an object holds under a key. -/
def Doc.get? (key : String) : Doc → Option Doc
  | .object members => members.find? key
  | _ => none

/-! ## Values nobody asked for -/

mutual

/-- The first fault of a value that is skipped. -/
def Doc.skip : Doc → Except Fault Unit
  | .null | .bool _ => .ok ()
  | .number n => n.skipped
  | .text s => s.skipped
  | .list items => items.skip
  | .object members => members.skip
  | .broken fault | .missing fault => .error fault

/-- The first fault of a list that is skipped. -/
def Items.skip : Items → Except Fault Unit
  | .item value rest => do value.skip; rest.skip
  | .closed => .ok ()
  | .commaClosed => .error .expectedValue
  | .commaEnded => .error .endOfValue
  | .junk => .error .expectedCommaOrBracket
  | .ended => .error .endOfList

/-- The first fault of an object that is skipped. -/
def Members.skip : Members → Except Fault Unit
  | .member key value rest => do key.skipped; value.skip; rest.skip
  | .keyOnly key fault => do key.skipped; .error fault
  | .notKey _ => .error .keyMustBeText
  | .closed => .ok ()
  | .commaClosed => .error .keyMustBeText
  | .commaEnded => .error .endOfObject
  | .junk => .error .expectedCommaOrBrace
  | .ended => .error .endOfObject

end

/-! ## Values that are kept -/

/-- The first fault of what stands where an item of a list or its end should be. -/
def Items.ending : Items → Except Fault Unit
  | .item _ _ => .ok ()
  | .closed => .ok ()
  | .commaClosed => .error .trailingComma
  | .commaEnded => .error .endOfValue
  | .junk => .error .expectedCommaOrBracket
  | .ended => .error .endOfList

/-- The first fault of what stands where a member of an object or its end should be. -/
def Members.ending : Members → Except Fault Unit
  | .member _ _ _ => .ok ()
  | .keyOnly key fault => do let _ ← key.value; .error fault
  | .notKey _ => .error .keyMustBeText
  | .closed => .ok ()
  | .commaClosed => .error .trailingComma
  | .commaEnded => .error .endOfValue
  | .junk => .error .expectedCommaOrBrace
  | .ended => .error .endOfObject

mutual

/-- The first fault of a value that is kept; `depth` more levels of nesting are allowed. -/
def Doc.check (depth : Nat) : Doc → Except Fault Unit
  | .null | .bool _ => .ok ()
  | .number n => n.value.map fun _ => ()
  | .text s => s.value.map fun _ => ()
  | .list items => if depth = 0 then .error .tooDeep else items.check (depth - 1)
  | .object members => if depth = 0 then .error .tooDeep else members.check (depth - 1)
  | .broken fault | .missing fault => .error fault

/-- The first fault of a list that is kept. -/
def Items.check (depth : Nat) : Items → Except Fault Unit
  | .item value rest => do value.check depth; rest.check depth
  | items => items.ending

/-- The first fault of an object that is kept. -/
def Members.check (depth : Nat) : Members → Except Fault Unit
  | .member key value rest => do
    let _ ← key.value
    value.check depth
    rest.check depth
  | members => members.ending

end

end WalletConsole.Json
