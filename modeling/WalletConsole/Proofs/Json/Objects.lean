import Mathlib
import WalletConsole.Proofs.Json.Records

/-!
# What is read from an object

An object that somebody else has written may hold anything. A record is read from it if each of its
fields stands there once, wherever that is, and says a value; members that are no fields only have
to be written well, and may be repeated.

* `bind_eq_ok_iff` — a reader that takes two steps comes to an end if both do
* `Members.entries?` — the members of an object, if it is written to its end
* `FieldsOf` — members that the fields of a record take, and others that can be skipped
* `collect_eq_ok_iff` — what is found, whichever fields are there
* `HoldsOnce` — an object holds a value under a key, and nothing else
* `holdsOnce_of_collect`, `exists_collect_of_holdsOnce` — **a field is found if it stands there
  once**
* `text_eq_ok_iff` — a text is read from a string without fault
-/

namespace WalletConsole.Json

open Text

/-! ## Steps that may fail -/

section

variable {ε α β : Type}

/-- What two steps come to, each of them came to something. -/
theorem bind_eq_ok_iff {x : Except ε α} {f : α → Except ε β} {b : β} :
    x >>= f = .ok b ↔ ∃ a, x = .ok a ∧ f a = .ok b := by
  cases x <;> simp [bind, Except.bind]

theorem map_eq_ok_iff {x : Except ε α} {f : α → β} {b : β} :
    f <$> x = .ok b ↔ ∃ a, x = .ok a ∧ f a = b := by
  cases x <;> simp [Functor.map, Except.map]

theorem sound_eq_ok_iff {r : Except Fault α} {a : α} : sound r = .ok a ↔ r = .ok a := by
  cases r <;> simp [sound, Except.mapError]

end

/-! ## Members -/

/-- The members of an object that is closed, with their keys. -/
def Members.entries? : Members → Option (List (String × Doc))
  | .member key value rest =>
    match key.value with
    | .ok name => rest.entries?.map ((name, value) :: ·)
    | .error _ => none
  | .closed => some []
  | _ => none

/-- One member after the other, up to whatever is no member. -/
@[elab_as_elim]
theorem Members.memberwise {motive : Members → Prop}
    (member : ∀ key value rest, motive rest → motive (.member key value rest))
    (ending : ∀ ms, (∀ key value rest, ms ≠ .member key value rest) → motive ms) :
    ∀ ms, motive ms
  | .member key value rest => member key value rest (memberwise member ending rest)
  | .keyOnly _ _ | .notKey _ | .closed | .commaClosed | .commaEnded | .junk | .ended =>
    ending _ (by simp)

theorem Members.eq_nil_of_ending {ms : Members} (h : ∀ key value rest, ms ≠ .member key value rest)
    {entries : List (String × Doc)} (hentries : ms.entries? = some entries) : entries = [] := by
  cases ms with
  | member key value rest => exact absurd rfl (h key value rest)
  | closed => exact (Option.some.inj hentries).symm
  | keyOnly _ _ | notKey _ | commaClosed | commaEnded | junk | ended => cases hentries

theorem Members.entries?_member {key : Reading String} {value : Doc} {rest : Members}
    {entries : List (String × Doc)} : (member key value rest).entries? = some entries ↔
      ∃ name others, key.value = .ok name ∧ rest.entries? = some others ∧
        entries = (name, value) :: others := by
  rw [Members.entries?]
  cases key.value <;> simp [eq_comm]

/-- Is a member a field of the record? -/
def isField (slots : List Slot) (m : String × Doc) : Bool := slots.any (·.name == m.1)

/-- Members that are fields say what they have to; the others can be skipped. -/
structure FieldsOf (slots : List Slot) (entries : List (String × Doc)) : Prop where
  field : ∀ m ∈ entries, ∀ slot, slots.find? (·.name == m.1) = some slot → slot.check m.2 = .ok ()
  other : ∀ m ∈ entries, slots.find? (·.name == m.1) = none → m.2.skip = .ok ()

section

variable {slots : List Slot} {filled out : List (String × Doc)}

theorem isField_eq_false_iff {m : String × Doc} :
    isField slots m = false ↔ slots.find? (·.name == m.1) = none := by
  rw [isField, List.any_eq_false, List.find?_eq_none]

theorem isField_of_find? {m : String × Doc} {slot : Slot}
    (h : slots.find? (·.name == m.1) = some slot) : isField slots m = true := by
  rw [← Bool.not_eq_false, isField_eq_false_iff, h]
  simp

theorem append_filter_other {m : String × Doc} {others : List (String × Doc)}
    (h : slots.find? (·.name == m.1) = none) :
    filled ++ (m :: others).filter (isField slots) = filled ++ others.filter (isField slots) := by
  rw [List.filter_cons_of_neg (by simp [isField_eq_false_iff.mpr h])]

theorem append_filter_field {m : String × Doc} {others : List (String × Doc)} {slot : Slot}
    (h : slots.find? (·.name == m.1) = some slot) :
    filled ++ (m :: others).filter (isField slots) =
      (filled ++ [m]) ++ others.filter (isField slots) := by
  rw [List.filter_cons_of_pos (isField_of_find? h), List.append_assoc, List.singleton_append]

/-- What was found so far has each field once, with one more if that is new. -/
theorem nodup_concat_iff {name : String} {value : Doc} (hfilled : (filled.map (·.1)).Nodup) :
    ((filled ++ [(name, value)]).map (·.1)).Nodup ↔ name ∉ filled.map (·.1) := by
  rw [List.map_append, List.map_singleton, ← List.concat_eq_append, List.nodup_concat]
  exact and_iff_left hfilled

theorem fieldsOf_cons {m : String × Doc} {entries : List (String × Doc)} :
    FieldsOf slots (m :: entries) ↔
      ((∀ slot, slots.find? (·.name == m.1) = some slot → slot.check m.2 = .ok ()) ∧
        (slots.find? (·.name == m.1) = none → m.2.skip = .ok ())) ∧ FieldsOf slots entries := by
  constructor
  · intro h
    exact ⟨⟨h.field m List.mem_cons_self, h.other m List.mem_cons_self⟩,
      fun n hn => h.field n (List.mem_cons_of_mem _ hn),
      fun n hn => h.other n (List.mem_cons_of_mem _ hn)⟩
  · rintro ⟨⟨hfield, hother⟩, h⟩
    exact ⟨List.forall_mem_cons.mpr ⟨hfield, h.field⟩, List.forall_mem_cons.mpr ⟨hother, h.other⟩⟩

/-- A member is kept as a field that has not been found before, or it is skipped. -/
theorem collect_member_eq_ok_iff {key : Reading String} {value : Doc} {rest : Members} :
    collect slots filled (.member key value rest) = .ok out ↔ ∃ name, key.value = .ok name ∧
      ((slots.find? (·.name == name) = none ∧ value.skip = .ok () ∧
          collect slots filled rest = .ok out) ∨
        ∃ slot, slots.find? (·.name == name) = some slot ∧ name ∉ filled.map (·.1) ∧
          slot.check value = .ok () ∧
          collect slots (filled ++ [(name, value)]) rest = .ok out) := by
  rw [collect, bind_eq_ok_iff]
  refine exists_congr fun name => and_congr sound_eq_ok_iff ?_
  rw [bind_eq_ok_iff]
  cases hslot : slots.find? (·.name == name) with
  | none =>
    rw [openSlot_of_no_slot hslot]
    simp [bind_eq_ok_iff, sound_eq_ok_iff, Unique.exists_iff]
  | some slot =>
    by_cases hmem : name ∈ filled.map (·.1)
    · rw [openSlot_of_mem hslot hmem]
      simp [hmem]
    · rw [openSlot_of_new hslot hmem]
      simp [bind_eq_ok_iff, hmem, Unique.exists_iff]

/-- After the members, nothing but the brace may stand there. -/
theorem collect_ending_eq_ok_iff {ms : Members}
    (h : ∀ key value rest, ms ≠ .member key value rest) :
    collect slots filled ms = .ok out ↔ ms.entries? = some [] ∧ out = filled := by
  cases ms with
  | member key value rest => exact absurd rfl (h key value rest)
  | closed =>
    simpa [collect, Members.ending, Members.entries?, map_eq_ok_iff, sound_eq_ok_iff] using
      (eq_comm : filled = out ↔ out = filled)
  | keyOnly key fault => simp [collect, Members.entries?, bind_eq_ok_iff]
  | notKey _ | commaClosed | commaEnded | junk | ended =>
    simp [collect, Members.ending, Members.entries?, map_eq_ok_iff, sound_eq_ok_iff]

/--
Fields are found if they stand there, none of them twice. What was found is in the order of the
text, behind what had been found before.
-/
theorem collect_eq_ok_iff {ms : Members} (hfilled : (filled.map (·.1)).Nodup) :
    collect slots filled ms = .ok out ↔ ∃ entries, ms.entries? = some entries ∧
      FieldsOf slots entries ∧ out = filled ++ entries.filter (isField slots) ∧
      (out.map (·.1)).Nodup := by
  induction ms using Members.memberwise generalizing filled with
  | ending ms hend =>
    rw [collect_ending_eq_ok_iff hend]
    constructor
    · rintro ⟨hclosed, rfl⟩
      exact ⟨[], hclosed, ⟨by simp, by simp⟩, by simp, hfilled⟩
    · rintro ⟨entries, hentries, -, rfl, -⟩
      obtain rfl := Members.eq_nil_of_ending hend hentries
      exact ⟨hentries, by simp⟩
  | member key value rest ih =>
    rw [collect_member_eq_ok_iff]
    constructor
    · rintro ⟨name, hkey, ⟨hslot, hskip, hrest⟩ | ⟨slot, hslot, hnew, hcheck, hrest⟩⟩
      · obtain ⟨others, hothers, hfields, hout, hnodup⟩ := (ih hfilled).mp hrest
        refine ⟨(name, value) :: others, ?_, ?_, ?_, hnodup⟩
        · exact Members.entries?_member.mpr ⟨name, others, hkey, hothers, rfl⟩
        · exact fieldsOf_cons.mpr ⟨⟨by simp [hslot], fun _ => hskip⟩, hfields⟩
        · rw [hout, append_filter_other hslot]
      · obtain ⟨others, hothers, hfields, hout, hnodup⟩ :=
          (ih ((nodup_concat_iff hfilled).mpr hnew)).mp hrest
        refine ⟨(name, value) :: others, ?_, ?_, ?_, hnodup⟩
        · exact Members.entries?_member.mpr ⟨name, others, hkey, hothers, rfl⟩
        · exact fieldsOf_cons.mpr ⟨⟨by simp [hslot, hcheck], by simp [hslot]⟩, hfields⟩
        · rw [hout, append_filter_field hslot]
    · rintro ⟨entries, hentries, hfields, hout, hnodup⟩
      obtain ⟨name, others, hkey, hothers, rfl⟩ := Members.entries?_member.mp hentries
      obtain ⟨⟨hfield, hother⟩, hrest⟩ := fieldsOf_cons.mp hfields
      refine ⟨name, hkey, ?_⟩
      cases hslot : slots.find? (·.name == name) with
      | none =>
        rw [append_filter_other hslot] at hout
        exact .inl ⟨rfl, hother hslot, (ih hfilled).mpr ⟨others, hothers, hrest, hout, hnodup⟩⟩
      | some slot =>
        rw [append_filter_field hslot] at hout
        -- what is found up to here is a part of what is found in the end
        have hfound : ((filled ++ [(name, value)]).map (·.1)).Nodup := by
          rw [hout, List.map_append] at hnodup
          exact hnodup.of_append_left
        exact .inr ⟨slot, rfl, (nodup_concat_iff hfilled).mp hfound, hfield slot hslot,
          (ih hfound).mpr ⟨others, hothers, hrest, hout, hnodup⟩⟩

end

/-! ## Keys that stand there once -/

/-- An object holds a value under a key, and nothing else. -/
def HoldsOnce (entries : List (String × Doc)) (name : String) (d : Doc) : Prop :=
  entries.filter (·.1 == name) = [(name, d)]

section

variable {slots : List Slot} {entries : List (String × Doc)} {name : String} {d : Doc}

theorem HoldsOnce.mem (h : HoldsOnce entries name d) : (name, d) ∈ entries := by
  have hmem : (name, d) ∈ entries.filter (·.1 == name) := by
    rw [show entries.filter (·.1 == name) = _ from h]
    exact List.mem_singleton_self _
  exact (List.mem_filter.mp hmem).1

theorem HoldsOnce.eq_of_mem (h : HoldsOnce entries name d) {m : String × Doc} (hm : m ∈ entries)
    (hname : m.1 = name) : m = (name, d) := by
  have hmem : m ∈ entries.filter (·.1 == name) := List.mem_filter.mpr ⟨hm, by simp [hname]⟩
  rw [show entries.filter (·.1 == name) = _ from h] at hmem
  exact List.mem_singleton.mp hmem

theorem lookup_eq_some_iff_holdsOnce (h : (entries.map (·.1)).Nodup) :
    entries.lookup name = some d ↔ HoldsOnce entries name d := by
  unfold HoldsOnce
  induction entries with
  | nil => simp
  | cons m entries ih =>
    obtain ⟨key, value⟩ := m
    rw [List.map_cons, List.nodup_cons] at h
    by_cases hkey : key = name
    · subst hkey
      have hrest : entries.filter (·.1 == key) = [] := by
        rw [List.filter_eq_nil_iff]
        intro m hm heq
        exact h.1 (List.mem_map.mpr ⟨m, hm, by simpa using heq⟩)
      simp [hrest]
    · rw [List.lookup_cons, beq_false_of_ne (Ne.symm hkey),
        List.filter_cons_of_neg (by simpa using hkey)]
      exact ih h.2

/-- Whether a key of a field stands there once does not rest on the other members. -/
theorem holdsOnce_fields_iff {slot : Slot} (hslot : slot ∈ slots) :
    HoldsOnce (entries.filter (isField slots)) slot.name d ↔ HoldsOnce entries slot.name d := by
  have hfield : ∀ m : String × Doc, (m.1 == slot.name && isField slots m) = (m.1 == slot.name) := by
    intro m
    by_cases hm : m.1 = slot.name
    · have hyes : isField slots m = true := List.any_eq_true.mpr ⟨slot, hslot, by simp [hm]⟩
      simp [hm, hyes]
    · simp [hm]
  unfold HoldsOnce
  rw [List.filter_filter, List.filter_congr fun m _ => hfield m]

theorem nodup_fields_of_holdsOnce (h : ∀ slot ∈ slots, ∃ d, HoldsOnce entries slot.name d) :
    ((entries.filter (isField slots)).map (·.1)).Nodup := by
  rw [List.nodup_iff_count_le_one]
  intro name
  rw [List.count_eq_countP, List.countP_map, List.countP_eq_length_filter]
  by_cases hname : ∃ slot ∈ slots, slot.name = name
  · obtain ⟨slot, hslot, rfl⟩ := hname
    obtain ⟨d, hd⟩ := h slot hslot
    have honce : (entries.filter (isField slots)).filter (·.1 == slot.name) = [(slot.name, d)] :=
      (holdsOnce_fields_iff hslot).mpr hd
    exact (congrArg List.length honce).le
  · have hnone : (entries.filter (isField slots)).filter (·.1 == name) = [] := by
      rw [List.filter_eq_nil_iff]
      intro m hm heq
      obtain ⟨slot, hslot, hsame⟩ := List.any_eq_true.mp (List.mem_filter.mp hm).2
      rw [beq_iff_eq] at heq hsame
      exact hname ⟨slot, hslot, hsame.trans heq⟩
    exact (congrArg List.length hnone).le.trans (Nat.zero_le 1)

theorem find?_eq_some_of_nodup (hnames : (slots.map (·.name)).Nodup) {slot : Slot}
    (hslot : slot ∈ slots) : slots.find? (·.name == slot.name) = some slot := by
  induction slots with
  | nil => cases hslot
  | cons first slots ih =>
    rw [List.map_cons, List.nodup_cons] at hnames
    rcases List.mem_cons.mp hslot with rfl | hmem
    · simp
    · have hne : first.name ≠ slot.name := fun heq =>
        hnames.1 (heq ▸ List.mem_map_of_mem hmem)
      rw [List.find?_cons_of_neg (by simpa using hne), ih hnames.2 hmem]

/--
**What is found under a field stands there once**, and says what it has to. The other members can
be skipped.
-/
theorem holdsOnce_of_collect {ms : Members} {out : List (String × Doc)}
    (hnames : (slots.map (·.name)).Nodup) (h : collect slots [] ms = .ok out) :
    ∃ entries, ms.entries? = some entries ∧
      (∀ slot ∈ slots, ∀ d, out.lookup slot.name = some d →
        HoldsOnce entries slot.name d ∧ slot.check d = .ok ()) ∧
      ∀ m ∈ entries, (∀ slot ∈ slots, slot.name ≠ m.1) → m.2.skip = .ok () := by
  obtain ⟨entries, hentries, hfields, rfl, hnodup⟩ := (collect_eq_ok_iff (by simp)).mp h
  refine ⟨entries, hentries, fun slot hslot d hd => ?_, fun m hm hnone => ?_⟩
  · have honce : HoldsOnce entries slot.name d :=
      (holdsOnce_fields_iff hslot).mp ((lookup_eq_some_iff_holdsOnce hnodup).mp hd)
    exact ⟨honce, hfields.field _ honce.mem slot (find?_eq_some_of_nodup hnames hslot)⟩
  · refine hfields.other m hm (List.find?_eq_none.mpr fun slot hslot => ?_)
    simpa using hnone slot hslot

/--
**All fields are found if each of them stands there once**, in whatever order, and says what it has
to, and if the other members can be skipped.
-/
theorem exists_collect_of_holdsOnce {ms : Members} (hentries : ms.entries? = some entries)
    (hall : ∀ slot ∈ slots, ∃ d, HoldsOnce entries slot.name d ∧ slot.check d = .ok ())
    (hothers : ∀ m ∈ entries, (∀ slot ∈ slots, slot.name ≠ m.1) → m.2.skip = .ok ()) :
    ∃ out, collect slots [] ms = .ok out ∧ ∀ slot ∈ slots, ∀ d,
      HoldsOnce entries slot.name d → out.lookup slot.name = some d := by
  have hnodup : ((entries.filter (isField slots)).map (·.1)).Nodup := by
    refine nodup_fields_of_holdsOnce fun slot hslot => ?_
    obtain ⟨d, hd, -⟩ := hall slot hslot
    exact ⟨d, hd⟩
  have hfields : FieldsOf slots entries := by
    refine ⟨fun m hm slot hfound => ?_, fun m hm hnone => ?_⟩
    · have hslot : slot ∈ slots := List.mem_of_find?_eq_some hfound
      have hname : slot.name = m.1 := by simpa using List.find?_some hfound
      obtain ⟨d, hd, hcheck⟩ := hall slot hslot
      obtain rfl : m = (slot.name, d) := hd.eq_of_mem hm hname.symm
      exact hcheck
    · refine hothers m hm fun slot hslot => ?_
      simpa using List.find?_eq_none.mp hnone slot hslot
  refine ⟨_, (collect_eq_ok_iff (by simp)).mpr ⟨entries, hentries, hfields, rfl, hnodup⟩, ?_⟩
  intro slot hslot d hd
  exact (lookup_eq_some_iff_holdsOnce hnodup).mpr ((holdsOnce_fields_iff hslot).mpr hd)

end

/-! ## Texts -/

theorem mismatch_ne_ok {α : Type} (expected : String) (d : Doc) (x : α) :
    mismatch expected d ≠ .ok x := by
  unfold mismatch
  cases d.found <;> simp

/-- A text is read from a string without fault, and from nothing else. -/
theorem text_eq_ok_iff {d : Doc} {s : String} :
    text d = .ok s ↔ ∃ r, d = .text r ∧ r.value = .ok s := by
  constructor
  · intro h
    unfold text at h
    split at h
    · next t skipped =>
      cases h
      exact ⟨_, rfl, rfl⟩
    · exact absurd h (mismatch_ne_ok _ _ _)
  · rintro ⟨⟨value, skipped⟩, rfl, rfl⟩
    rfl

theorem check_slot_text_iff {name : String} {d : Doc} :
    (Fields.slot name text).check d = .ok () ↔ ∃ s, text d = .ok s := by
  show (text d).map (fun _ => ()) = .ok () ↔ _
  cases text d <;> simp [Except.map]

/-! ## Lists of fields -/

section

variable {slot : Slot} {slots : List Slot} {found : List (String × Doc)} {rest : Items}

theorem collectInOrder_item_eq_ok_iff {value : Doc} {items : Items} :
    collectInOrder (slot :: slots) (.item value items) = .ok (found, rest) ↔
      slot.check value = .ok () ∧ ∃ others, collectInOrder slots items = .ok (others, rest) ∧
        (slot.name, value) :: others = found := by
  simp [collectInOrder, bind_eq_ok_iff, map_eq_ok_iff, Unique.exists_iff]

/-- A field that is found in a list stands there. -/
theorem exists_item_of_collectInOrder {items : Items} (hne : found ≠ [])
    (h : collectInOrder (slot :: slots) items = .ok (found, rest)) :
    ∃ value others later, items = .item value others ∧
      collectInOrder slots others = .ok (later, rest) ∧ (slot.name, value) :: later = found := by
  cases items with
  | item value others =>
    obtain ⟨-, later, hlater, hfound⟩ := collectInOrder_item_eq_ok_iff.mp h
    exact ⟨value, others, later, rfl, hlater, hfound⟩
  | closed =>
    simp only [collectInOrder, bind_pure_comp, map_eq_ok_iff, Prod.mk.injEq] at h
    obtain ⟨_, _, hnone, -⟩ := h
    exact absurd hnone.symm hne
  | commaClosed | commaEnded | junk | ended =>
    simp [collectInOrder, Items.ending, map_eq_ok_iff, sound_eq_ok_iff] at h

theorem close_eq_ok_iff {before : Nat} : rest.close before = .ok () ↔ rest = .closed := by
  cases rest <;> simp [Items.close]

end

/-! ## Fields that were found -/

namespace Fields

variable {α β : Type} {given : Given}

theorem ofMembers_eq_ok_iff {fields : Fields α} {ms : Members} {x : α} :
    fields.ofMembers ms = .ok x ↔ ∃ found, collect fields.slots [] ms = .ok found ∧
      fields.build ⟨found, .missingField⟩ = .ok x :=
  bind_eq_ok_iff

theorem ofItems_eq_ok_iff {fields : Fields α} {what : String} {items rest : Items} {x : α} :
    fields.ofItems what items = .ok (x, rest) ↔
      ∃ found, collectInOrder fields.slots items = .ok (found, rest) ∧
        fields.build ⟨found, fields.tooShort (fields.inOrder what)⟩ = .ok x := by
  simp [ofItems, bind_eq_ok_iff, map_eq_ok_iff]

/-- A list of the fields has to end behind them. -/
theorem decode_list_eq_ok_iff {fields : Fields α} {name : String} {items : Items} {x : α} :
    fields.decode name (.list items) = .ok x ↔
      fields.ofItems ("struct " ++ name) items = .ok (x, .closed) := by
  simp [decode, bind_eq_ok_iff, map_eq_ok_iff, close_eq_ok_iff, Unique.exists_iff]

/-- A record is read from an object or from a list. -/
theorem decode_ne_ok {fields : Fields α} {name : String} {d : Doc} {x : α}
    (hobject : ∀ members, d ≠ .object members) (hlist : ∀ items, d ≠ .list items) :
    fields.decode name d ≠ .ok x := by
  have hmismatch : fields.decode name d = mismatch ("struct " ++ name) d := by
    cases d with
    | object members => exact absurd rfl (hobject members)
    | list items => exact absurd rfl (hlist items)
    | null | bool _ | number _ | text _ | broken _ | missing _ => rfl
  rw [hmismatch]
  exact mismatch_ne_ok _ d x

theorem build_seq_eq_ok_iff {f : Fields (α → β)} {x : Fields α} {y : β} :
    (f <*> x).build given = .ok y ↔
      ∃ g a, f.build given = .ok g ∧ x.build given = .ok a ∧ g a = y := by
  show (do return (← f.build given) (← x.build given)) = _ ↔ _
  simp [bind_eq_ok_iff, map_eq_ok_iff]

theorem build_map_eq_ok_iff {f : α → β} {x : Fields α} {y : β} :
    (f <$> x).build given = .ok y ↔ ∃ a, x.build given = .ok a ∧ f a = y := by
  show (always f <*> x).build given = .ok y ↔ _
  rw [build_seq_eq_ok_iff]
  simp [always]

theorem build_required_eq_ok_iff {name : String} {decode : Decoder α} {x : α} :
    (required name decode).build given = .ok x ↔
      ∃ d, given.values.lookup name = some d ∧ decode d = .ok x := by
  unfold required
  cases h : given.values.lookup name <;> simp [h]

end Fields

end WalletConsole.Json
