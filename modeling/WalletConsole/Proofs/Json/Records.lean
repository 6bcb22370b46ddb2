import Mathlib.Data.List.Forall2
import WalletConsole.Proofs.Json.RoundTrip
import WalletConsole.Proofs.Text.Bytes
import WalletConsole.Wallet.Named

/-!
# Records, written and read

A record is written as an object of its fields in their order, and a field is read wherever it
stands. So it is enough to know of each field by itself that it is read back.

* `Decodes` — a decoder gets a value back from the form in which it is written; one lemma for each
  decoder
* `Fields.Reads` — a record of some fields gets its value back, put together field by field
* `Fields.Reads.decodes`, `decodes_tagged` — the record as a whole, and one that names its kind
* `Wire.Lawful` — a type whose values are read back, and `Wire.read_write` for their texts
-/

namespace WalletConsole.Json

open Text Calendar

/-- A decoder gets a value back from the form in which it is written. -/
def Decodes {α : Type} (decode : Decoder α) (v : Value) (x : α) : Prop := decode v.toDoc = .ok x

/-! ## Scalars -/

theorem decodes_text (s : String) : Decodes text (.text s) s := rfl

theorem decodes_bool (b : Bool) : Decodes bool (.bool b) b := rfl

theorem decodes_natural (bound : Nat) (expected : String) {n : UInt64} (h : n.toNat < bound) :
    Decodes (natural bound expected) (.natural n) n.toNat := if_pos h

theorem decodes_word64 (n : UInt64) : Decodes word64 (.natural n) n := by
  have hread : natural UInt64.size "u64" (Value.natural n).toDoc = .ok n.toNat :=
    decodes_natural _ _ n.toNat_lt
  unfold Decodes word64
  rw [hread]
  simp [Except.map]

theorem decodes_count64 (n : UInt64) : Decodes count64 (.natural n) n := by
  have hread : natural UInt64.size "usize" (Value.natural n).toDoc = .ok n.toNat :=
    decodes_natural _ _ n.toNat_lt
  unfold Decodes count64
  rw [hread]
  simp [Except.map]

theorem decodes_word16 (n : UInt16) : Decodes word16 (.natural n.toUInt64) n := by
  have hsize : n.toUInt64.toNat < UInt16.size := by
    rw [UInt16.toNat_toUInt64]
    exact n.toNat_lt
  have hread : natural UInt16.size "u16" (Value.natural n.toUInt64).toDoc = .ok n.toUInt64.toNat :=
    decodes_natural _ _ hsize
  unfold Decodes word16
  rw [hread]
  simp [Except.map]

/-- A number that is not negative is written as a word without sign. -/
theorem decodes_signed64 (n : Int64) : Decodes signed64 (.signed n) n := by
  unfold Decodes Value.toDoc
  by_cases hn : n < 0
  · simp [hn, signed64, Reading.sound]
  · have hpos : 0 ≤ n.toInt := by
      rw [Int64.lt_iff_toInt_lt] at hn
      simpa using hn
    have hhigh : n.toInt ≤ 9223372036854775807 := n.toInt_le
    have hword : n.toInt.toNat.toUInt64.toNat = n.toInt.toNat := by
      show (UInt64.ofNat n.toInt.toNat).toNat = _
      rw [UInt64.toNat_ofNat_of_lt' (by unfold UInt64.size; omega)]
    have hfits : n.toInt.toNat < UInt64.size / 2 := by
      unfold UInt64.size
      omega
    have hback : Int64.ofNat n.toInt.toNat = n := by
      rw [← Int64.ofInt_eq_ofNat, Int.toNat_of_nonneg hpos, Int64.ofInt_toInt]
    simp only [hn, if_false, signed64, Reading.sound, hword, hfits, if_true, hback]

theorem decodes_instant {t : Instant} (h : Instant.parse t.text = .ok t) :
    Decodes instant (instantValue t) t := by
  show (Instant.parse t.text).mapError _ = _
  rw [h]
  rfl

/-! ## Compound values -/

/-- A value that is never written as `null` may be missing. -/
theorem decodes_nullable {α : Type} {decode : Decoder α} {encode : α → Value} {x : Option α}
    (h : ∀ y ∈ x, Decodes decode (encode y) y) (hnull : ∀ y ∈ x, (encode y).toDoc ≠ .null) :
    Decodes (nullable decode) (nullableValue encode x) x := by
  cases x with
  | none => rfl
  | some y =>
    have hread := h y rfl
    have hdoc := hnull y rfl
    unfold Decodes at hread ⊢
    show nullable decode (encode y).toDoc = _
    unfold nullable
    split
    · rename_i heq
      exact absurd heq hdoc
    · rw [hread]
      rfl

theorem items_itemsOf {α : Type} {decode : Decoder α} {encode : α → Value} {xs : List α}
    (h : ∀ x ∈ xs, Decodes decode (encode x) x) :
    items decode (itemsOf (xs.map encode)) = .ok xs := by
  induction xs with
  | nil => rfl
  | cons x xs ih =>
    have hx : decode (encode x).toDoc = .ok x := h x List.mem_cons_self
    have hxs := ih fun y hy => h y (List.mem_cons_of_mem _ hy)
    simp [itemsOf, items, hx, hxs, bind, Except.bind, pure, Except.pure]

theorem decodes_sequence {α : Type} {decode : Decoder α} {encode : α → Value} {xs : List α}
    (h : ∀ x ∈ xs, Decodes decode (encode x) x) :
    Decodes (sequence decode) (.list (xs.map encode)) xs := by
  show sequence decode (.list (itemsOf (xs.map encode))) = _
  exact items_itemsOf h

theorem decodes_named {α : Type} [Named α] {x : α} (h : Named.ofName? (Named.name x) = some x) :
    Decodes Named.decode (Named.encode x) x := by
  show byName Named.table (Named.name x) = _
  unfold byName
  rw [show (Named.table (α := α)).lookup (Named.name x) = some x from h]

/-! ## Objects -/

/-- The fields of an object are found under their names. -/
theorem lookup_of_mem {β : Type} {l : List (String × β)} (h : (l.map (·.1)).Nodup)
    {m : String × β} (hm : m ∈ l) : l.lookup m.1 = some m.2 := by
  induction l with
  | nil => cases hm
  | cons n l ih =>
    rw [List.map_cons, List.nodup_cons] at h
    obtain ⟨name, value⟩ := n
    rcases List.mem_cons.mp hm with rfl | hml
    · simp
    · have hne : m.1 ≠ name := by
        intro heq
        exact h.1 (List.mem_map.mpr ⟨m, hml, heq⟩)
      rw [List.lookup_cons, beq_false_of_ne hne]
      exact ih h.2 hml

/-- A field takes a member of an object. -/
structure Slot.Takes (slot : Slot) (m : String × Value) : Prop where
  name : slot.name = m.1
  check : slot.check m.2.toDoc = .ok ()

theorem find?_slot {slots : List Slot} {ms : List (String × Value)}
    (h : List.Forall₂ Slot.Takes slots ms) (hnames : (ms.map (·.1)).Nodup)
    {m : String × Value} (hm : m ∈ ms) :
    ∃ slot, slots.find? (·.name == m.1) = some slot ∧ slot.check m.2.toDoc = .ok () := by
  induction h with
  | nil => cases hm
  | @cons slot n slots ns htakes _ ih =>
    rw [List.map_cons, List.nodup_cons] at hnames
    rcases List.mem_cons.mp hm with rfl | hmn
    · exact ⟨slot, by simp [htakes.name], htakes.check⟩
    · have hne : slot.name ≠ m.1 := by
        intro heq
        rw [htakes.name] at heq
        exact hnames.1 (heq ▸ List.mem_map_of_mem hmn)
      obtain ⟨found, hfound, hcheck⟩ := ih hnames.2 hmn
      exact ⟨found, by simp [hne, hfound], hcheck⟩

/-- What an object holds for each of its fields. -/
def found (ms : List (String × Value)) : List (String × Doc) := ms.map fun m => (m.1, m.2.toDoc)

theorem found_names (ms : List (String × Value)) : (found ms).map (·.1) = ms.map (·.1) := by
  simp [found, Function.comp_def]

section

variable {slots : List Slot} {filled : List (String × Doc)} {name : String}

/-- A member that is no field fills no slot. -/
theorem openSlot_of_no_slot (hslot : slots.find? (·.name == name) = none) :
    openSlot slots filled name = .ok none := by
  simp [openSlot, hslot]

/-- A member that is a field fills its slot. -/
theorem openSlot_of_new {slot : Slot} (hslot : slots.find? (·.name == name) = some slot)
    (hnew : name ∉ filled.map (·.1)) : openSlot slots filled name = .ok (some slot) := by
  have hany : filled.any (·.1 == name) = false := by
    rw [List.any_eq_false]
    intro m hm heq
    exact hnew (List.mem_map.mpr ⟨m, hm, by simpa using heq⟩)
  simp [openSlot, hslot, hany]

/-- A slot is filled once. -/
theorem openSlot_of_mem {slot : Slot} (hslot : slots.find? (·.name == name) = some slot)
    (hmem : name ∈ filled.map (·.1)) :
    openSlot slots filled name = .error (.duplicateField name) := by
  have hany : filled.any (·.1 == name) = true := by
    obtain ⟨m, hm, rfl⟩ := List.mem_map.mp hmem
    exact List.any_eq_true.mpr ⟨m, hm, by simp⟩
  simp [openSlot, hslot, hany]

end

/-- A member that a field takes is kept. -/
theorem collect_member {slots : List Slot} {filled : List (String × Doc)} {key : String}
    {value : Doc} {slot : Slot} (hslot : slots.find? (·.name == key) = some slot)
    (hnew : key ∉ filled.map (·.1)) (hcheck : slot.check value = .ok ()) (rest : Members) :
    collect slots filled (.member (.sound key) value rest) =
      collect slots (filled ++ [(key, value)]) rest := by
  simp [collect, sound, Except.mapError, Reading.sound, openSlot_of_new hslot hnew, hcheck, bind,
    Except.bind]

/-- A member that is no field is left out. -/
theorem collect_other {slots : List Slot} {filled : List (String × Doc)} {key : String}
    {value : Doc} (hslot : slots.find? (·.name == key) = none) (hskip : value.skip = .ok ())
    (rest : Members) :
    collect slots filled (.member (.sound key) value rest) = collect slots filled rest := by
  simp [collect, sound, Except.mapError, Reading.sound, openSlot_of_no_slot hslot, hskip, bind,
    Except.bind]

theorem collect_membersOf {slots : List Slot} {ms : List (String × Value)}
    (h : ∀ m ∈ ms, ∃ slot, slots.find? (·.name == m.1) = some slot ∧
      slot.check m.2.toDoc = .ok ()) (filled : List (String × Doc))
    (hnames : (filled.map (·.1) ++ ms.map (·.1)).Nodup) :
    collect slots filled (membersOf ms) = .ok (filled ++ found ms) := by
  induction ms generalizing filled with
  | nil =>
    simp [membersOf, collect, Members.ending, sound, Except.mapError, found, bind, Except.bind,
      pure, Except.pure]
  | cons m ms ih =>
    obtain ⟨key, value⟩ := m
    obtain ⟨slot, hslot, hcheck⟩ := h (key, value) List.mem_cons_self
    have hnew : key ∉ filled.map (·.1) := by
      intro hmem
      exact (List.nodup_append.mp hnames).2.2 key hmem key (by simp) rfl
    have hrest := ih (fun m hm => h m (List.mem_cons_of_mem _ hm))
      (filled ++ [(key, value.toDoc)]) (by simpa using hnames)
    show collect slots filled (.member (.sound key) value.toDoc (membersOf ms)) = _
    rw [collect_member hslot hnew hcheck, hrest]
    simp [found]

/-! ## Fields -/

namespace Fields

variable {α β : Type}

/-- A record of some fields gets its value back from an object with these members. -/
structure Reads (f : Fields α) (ms : List (String × Value)) (x : α) : Prop where
  takes : List.Forall₂ Slot.Takes f.slots ms
  build : ∀ given : Given, (∀ m ∈ ms, given.values.lookup m.1 = some m.2.toDoc) →
    f.build given = .ok x

variable {name : String} {decode : Decoder α} {v : Value} {x : α}

theorem takes_slot (name : String) (h : Decodes decode v x) :
    (slot name decode).Takes (name, v) := by
  refine ⟨rfl, ?_⟩
  unfold Decodes at h
  show (decode v.toDoc).map _ = _
  rw [h]
  rfl

theorem reads_required (name : String) (h : Decodes decode v x) :
    Reads (.required name decode) [(name, v)] x where
  takes := .cons (takes_slot name h) .nil
  build := by
    intro given hgiven
    have hfound := hgiven (name, v) List.mem_cons_self
    simp only [required, hfound]
    exact h

theorem reads_defaulted (name : String) (default : α) (h : Decodes decode v x) :
    Reads (.defaulted name default decode) [(name, v)] x where
  takes := .cons (takes_slot name h) .nil
  build := by
    intro given hgiven
    have hfound := hgiven (name, v) List.mem_cons_self
    simp only [defaulted, hfound]
    exact h

theorem reads_optional {encode : α → Value} {y : Option α} (name : String)
    (h : ∀ z ∈ y, Decodes decode (encode z) z) (hnull : ∀ z ∈ y, (encode z).toDoc ≠ .null) :
    Reads (.optional name decode) [(name, nullableValue encode y)] y :=
  reads_defaulted name none (decodes_nullable h hnull)

theorem Reads.seq {f : Fields (α → β)} {g : α → β} {y : Fields α} {ms ns : List (String × Value)}
    (hf : Reads f ms g) (hy : Reads y ns x) : Reads (f <*> y) (ms ++ ns) (g x) where
  takes := List.rel_append hf.takes hy.takes
  build := by
    intro given hgiven
    have hg := hf.build given fun m hm => hgiven m (List.mem_append_left _ hm)
    have hx := hy.build given fun m hm => hgiven m (List.mem_append_right _ hm)
    show (do return (← f.build given) (← y.build given)) = _
    rw [hg, hx]
    rfl

theorem Reads.map {y : Fields α} {ms : List (String × Value)} (g : α → β) (hy : Reads y ms x) :
    Reads (g <$> y) ms (g x) :=
  Reads.seq (f := .always g) ⟨.nil, fun _ _ => rfl⟩ hy

theorem Reads.names {f : Fields α} {ms : List (String × Value)} (h : Reads f ms x) :
    f.slots.map (·.name) = ms.map (·.1) := by
  rw [← List.forall₂_eq_eq_eq, List.forall₂_map_left_iff, List.forall₂_map_right_iff]
  exact h.takes.imp fun _ _ htakes => htakes.name

/-- The members of an object make up a record, unless two fields have the same name. -/
theorem Reads.ofMembers {f : Fields α} {ms : List (String × Value)} (h : Reads f ms x)
    (hslots : (f.slots.map (·.name)).Nodup) : f.ofMembers (membersOf ms) = .ok x := by
  have hnames : (ms.map (·.1)).Nodup := by rwa [← h.names]
  have hcollect := collect_membersOf (fun m hm => find?_slot h.takes hnames hm) []
    (by simpa using hnames)
  have hbuild := h.build ⟨found ms, .missingField⟩ fun m hm => by
    have hm' : (m.1, m.2.toDoc) ∈ found ms := List.mem_map_of_mem hm
    exact lookup_of_mem (by rw [found_names]; exact hnames) hm'
  unfold Fields.ofMembers
  rw [hcollect]
  exact hbuild

/-- **A record is read back**, unless two of its fields have the same name. -/
theorem Reads.decodes {f : Fields α} {ms : List (String × Value)} (h : Reads f ms x)
    (hslots : (f.slots.map (·.name)).Nodup) (name : String) :
    Decodes (f.decode name) (.object ms) x :=
  h.ofMembers hslots

end Fields

/-! ## Records that name their kind -/

section

variable {α : Type} {variants : List (Variant α)} {v : Variant α} {ms : List (String × Value)}
  {tag : String}

/-- Once the tag was found, the members behind it are looked through. -/
theorem findTag_membersOf {τ : Type} {decode : Decoder τ} {found : τ}
    (hother : ∀ m ∈ ms, m.1 ≠ tag) (hcheck : ∀ m ∈ ms, m.2.toDoc.check fieldDepth = .ok ()) :
    findTag tag decode (some found) (membersOf ms) = .ok (some found) := by
  induction ms with
  | nil => rfl
  | cons m ms ih =>
    obtain ⟨key, value⟩ := m
    have hkey : key ≠ tag := hother (key, value) List.mem_cons_self
    have hvalue : value.toDoc.check fieldDepth = .ok () := hcheck (key, value) List.mem_cons_self
    have hrest := ih (fun m hm => hother m (List.mem_cons_of_mem _ hm))
      (fun m hm => hcheck m (List.mem_cons_of_mem _ hm))
    simp only [membersOf, findTag, sound, Reading.sound, Except.mapError, bind, Except.bind, hkey,
      if_false, hvalue]
    exact hrest

/-- **A record that names its kind is read back**, unless two of its fields and the tag agree in
name. -/
theorem decodes_tagged (name : String) {x : α}
    (hvariant : (variants.map fun v => (v.wire, v)).lookup v.wire = some v)
    (hslots : (tag :: v.fields.slots.map (·.name)).Nodup)
    (hcheck : ∀ m ∈ ms, m.2.toDoc.check fieldDepth = .ok ()) (h : v.fields.Reads ms x) :
    Decodes (tagged name tag variants) (.object ((tag, .text v.wire) :: ms)) x := by
  rw [List.nodup_cons] at hslots
  have hother : ∀ m ∈ ms, m.1 ≠ tag := by
    intro m hm heq
    rw [h.names] at hslots
    exact hslots.1 (List.mem_map.mpr ⟨m, hm, heq⟩)
  have htag : findTag tag (nameOf (variants.map fun v => (v.wire, v))) none
      (membersOf ((tag, .text v.wire) :: ms)) = .ok (some v) := by
    have hname : nameOf (variants.map fun v => (v.wire, v)) (Value.text v.wire).toDoc = .ok v := by
      show byName _ v.wire = _
      unfold byName
      rw [hvariant]
    simp only [membersOf, findTag, sound, Reading.sound, Except.mapError, bind, Except.bind,
      if_true, Option.isSome_none, Bool.false_eq_true, if_false, hname]
    exact findTag_membersOf hother hcheck
  -- the tag is no field of the record
  have hskip : collect v.fields.slots [] (membersOf ((tag, .text v.wire) :: ms)) =
      collect v.fields.slots [] (membersOf ms) := by
    refine collect_other ?_ rfl _
    rw [List.find?_eq_none]
    intro slot hslot heq
    exact hslots.1 (List.mem_map.mpr ⟨slot, hslot, by simpa using heq⟩)
  have hread : v.fields.ofMembers (membersOf ((tag, .text v.wire) :: ms)) = .ok x := by
    rw [← h.ofMembers hslots.2]
    unfold Fields.ofMembers
    rw [hskip]
  unfold Decodes Value.toDoc tagged
  simp only [htag, bind, Except.bind]
  exact hread

end

/-! ## Types -/

namespace Wire

/-- A type whose values are read back from the form in which they are written. -/
class Lawful (α : Type) [Wire α] : Prop where
  decodes (x : α) : Decodes Wire.decode (Wire.encode x) x

variable {α : Type} [Wire α] [Lawful α]

theorem readPieces_write (x : α) : readPieces (Piece.ofString (write x)) = .ok x := by
  have hread : Wire.decode (Wire.encode x).toDoc = .ok x := Lawful.decodes x
  unfold readPieces write
  rw [ofPieces_write]
  simp [hread, bind, Except.bind, pure, Except.pure]

/-- **A value is read back from its text.** -/
theorem read_write (x : α) : read (write x) = .ok x := readPieces_write x

/-- **A value is read back from the bytes of its text.** -/
theorem readBytes_write (x : α) : readBytes (Remote.utf8Bytes (write x).toList) = .ok x := by
  unfold readBytes
  rw [pieces_utf8Bytes]
  exact readPieces_write x

instance : Lawful (List α) where
  decodes _ := decodes_sequence fun x _ => Lawful.decodes x

end Wire

end WalletConsole.Json
