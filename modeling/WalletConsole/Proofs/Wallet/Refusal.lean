import Mathlib
import WalletConsole.Proofs.Json.Objects
import WalletConsole.Proofs.Wallet.RoundTrip
import WalletConsole.Wallet.Message

/-!
# Bodies that say why

The backend says why it refuses in an object with a status and a reason. Other bodies may come from
anywhere in between, so it is told here, of any text at all, whether it says such a refusal.

* `Refusal.SaidBy`, `Refusal.SaidIn` — the trees and the texts that say a refusal
* `Refusal.decode_eq_ok_iff`, `Refusal.read_eq_ok_iff` — **a refusal is read from those that say it**
* `Refusal.saidIn_write` — such as the text that is written for it
-/

namespace WalletConsole

open Json Text

/-! ## Blanks -/

/-- Where there are only blanks, no value starts. -/
theorem Json.readDoc_of_isBlank {s : List Piece} (h : ∀ p ∈ s, ∃ c, p = .char c ∧ isBlank c = true)
    (fuel : Nat) : ∃ fault, (readDoc (fuel + 1) s).1 = .missing fault := by
  rw [readDoc]
  cases hs : skipSpace s with
  | nil => exact ⟨_, rfl⟩
  | cons p rest =>
    have hmem : p ∈ s := List.dropWhile_subset _ (hs ▸ List.mem_cons_self)
    obtain ⟨c, rfl, hc⟩ := h p hmem
    have hne : ∀ x, isBlank x = false → c ≠ x := by
      rintro x hx rfl
      rw [hx] at hc
      cases hc
    have hdigit : c.isDigit = false := by
      rw [← Bool.not_eq_true]
      intro hd
      rw [Calendar.isBlank_of_isDigit hd] at hc
      cases hc
    simp [hdigit, hne 'n' (by decide), hne 't' (by decide), hne 'f' (by decide),
      hne '"' (by decide), hne '-' (by decide), hne '[' (by decide), hne '\x7b' (by decide)]

/-! ## Trees -/

/--
The tree of a body that says why a call was refused: an object that holds a status and a reason,
each of them once, or a list of just these two.
-/
inductive Refusal.SaidBy (e : Refusal) : Doc → Prop where
  | object {members : Members} {entries : List (String × Doc)} {status reason : Reading String}
    (hentries : members.entries? = some entries)
    (hstatus : HoldsOnce entries "status" (.text status)) (hword : status.value = .ok e.status)
    (hreason : HoldsOnce entries "reason" (.text reason)) (hwhy : reason.value = .ok e.reason)
    (hothers : ∀ m ∈ entries, m.1 ≠ "status" → m.1 ≠ "reason" → m.2.skip = .ok ()) :
    SaidBy e (.object members)
  | list {status reason : Reading String} (hword : status.value = .ok e.status)
    (hwhy : reason.value = .ok e.reason) :
    SaidBy e (.list (.item (.text status) (.item (.text reason) .closed)))

namespace Refusal

/-- The field with the status. -/
def statusSlot : Slot := Fields.slot "status" text

/-- The field with the reason. -/
def reasonSlot : Slot := Fields.slot "reason" text

theorem forall_mem_slots {p : Slot → Prop} :
    (∀ slot ∈ fields.slots, p slot) ↔ p statusSlot ∧ p reasonSlot := by
  show (∀ slot ∈ [statusSlot, reasonSlot], p slot) ↔ _
  simp

/-- A member that is neither field has another key. -/
theorem forall_slots_ne_iff {name : String} :
    (∀ slot ∈ fields.slots, slot.name ≠ name) ↔ name ≠ "status" ∧ name ≠ "reason" := by
  rw [forall_mem_slots]
  exact and_congr ne_comm ne_comm

theorem build_eq_ok_iff {given : Given} {e : Refusal} : fields.build given = .ok e ↔
    (∃ d, given.values.lookup "status" = some d ∧ text d = .ok e.status) ∧
      ∃ d, given.values.lookup "reason" = some d ∧ text d = .ok e.reason := by
  obtain ⟨status, reason⟩ := e
  simp only [fields, Fields.build_seq_eq_ok_iff, Fields.build_map_eq_ok_iff,
    Fields.build_required_eq_ok_iff]
  constructor
  · rintro ⟨_, _, ⟨s, hs, rfl⟩, hr, heq⟩
    cases heq
    exact ⟨hs, hr⟩
  · rintro ⟨hs, hr⟩
    exact ⟨_, _, ⟨status, hs, rfl⟩, hr, rfl⟩

theorem ofMembers_eq_ok_iff {members : Members} {e : Refusal} :
    fields.ofMembers members = .ok e ↔ e.SaidBy (.object members) := by
  simp only [Fields.ofMembers_eq_ok_iff, build_eq_ok_iff]
  constructor
  · rintro ⟨found, hfound, ⟨d, hd, hstatus⟩, d', hd', hreason⟩
    obtain ⟨entries, hentries, honce, hothers⟩ := holdsOnce_of_collect (by decide) hfound
    obtain ⟨status, rfl, hword⟩ := text_eq_ok_iff.mp hstatus
    obtain ⟨reason, rfl, hwhy⟩ := text_eq_ok_iff.mp hreason
    obtain ⟨hstatusOnce, hreasonOnce⟩ := forall_mem_slots.mp honce
    exact .object hentries (hstatusOnce _ hd).1 hword (hreasonOnce _ hd').1 hwhy
      fun m hm hs hr => hothers m hm (forall_slots_ne_iff.mpr ⟨hs, hr⟩)
  · intro h
    cases h with
    | object hentries hstatus hword hreason hwhy hothers =>
      have hstatusText := text_eq_ok_iff.mpr ⟨_, rfl, hword⟩
      have hreasonText := text_eq_ok_iff.mpr ⟨_, rfl, hwhy⟩
      obtain ⟨found, hfound, hlookup⟩ := exists_collect_of_holdsOnce hentries
        (forall_mem_slots.mpr ⟨⟨_, hstatus, check_slot_text_iff.mpr ⟨_, hstatusText⟩⟩,
          _, hreason, check_slot_text_iff.mpr ⟨_, hreasonText⟩⟩)
        fun m hm hnone =>
          hothers m hm (forall_slots_ne_iff.mp hnone).1 (forall_slots_ne_iff.mp hnone).2
      obtain ⟨hstatusFound, hreasonFound⟩ := forall_mem_slots.mp hlookup
      exact ⟨found, hfound, ⟨_, hstatusFound _ hstatus, hstatusText⟩,
        _, hreasonFound _ hreason, hreasonText⟩

theorem ofItems_eq_ok_iff {what : String} {items rest : Items} {e : Refusal} :
    fields.ofItems what items = .ok (e, rest) ↔ ∃ status reason,
      items = .item status (.item reason rest) ∧ text status = .ok e.status ∧
        text reason = .ok e.reason := by
  simp only [Fields.ofItems_eq_ok_iff, build_eq_ok_iff]
  show (∃ found, collectInOrder [statusSlot, reasonSlot] items = .ok (found, rest) ∧ _) ↔ _
  constructor
  · rintro ⟨found, hfound, ⟨status, hstatus, hword⟩, reason, hreason, hwhy⟩
    obtain ⟨first, items, later, rfl, hlater, rfl⟩ :=
      exists_item_of_collectInOrder (by rintro rfl; cases hstatus) hfound
    obtain rfl : first = status := by simpa [statusSlot, Fields.slot] using hstatus
    have hnext : later.lookup "reason" = some reason := by
      simpa [statusSlot, Fields.slot, List.lookup_cons] using hreason
    obtain ⟨second, items, _, rfl, hnone, rfl⟩ :=
      exists_item_of_collectInOrder (by rintro rfl; cases hnext) hlater
    obtain rfl : second = reason := by simpa [reasonSlot, Fields.slot] using hnext
    cases hnone
    exact ⟨first, second, rfl, hword, hwhy⟩
  · rintro ⟨status, reason, rfl, hword, hwhy⟩
    have hstatus : statusSlot.check status = .ok () := check_slot_text_iff.mpr ⟨_, hword⟩
    have hreason : reasonSlot.check reason = .ok () := check_slot_text_iff.mpr ⟨_, hwhy⟩
    refine ⟨[("status", status), ("reason", reason)], ?_, ⟨status, by simp, hword⟩, reason, ?_, hwhy⟩
    · exact collectInOrder_item_eq_ok_iff.mpr ⟨hstatus, _,
        collectInOrder_item_eq_ok_iff.mpr ⟨hreason, [], rfl, rfl⟩, rfl⟩
    · simp [List.lookup_cons]

/-- **A refusal is read from the bodies that say one.** -/
theorem decode_eq_ok_iff {d : Doc} {e : Refusal} : Wire.decode d = .ok e ↔ e.SaidBy d := by
  show fields.decode "ErrorResponse" d = .ok e ↔ _
  cases d with
  | object members => exact ofMembers_eq_ok_iff
  | list items =>
    rw [Fields.decode_list_eq_ok_iff, ofItems_eq_ok_iff]
    constructor
    · rintro ⟨_, _, rfl, hstatus, hreason⟩
      obtain ⟨status, rfl, hword⟩ := text_eq_ok_iff.mp hstatus
      obtain ⟨reason, rfl, hwhy⟩ := text_eq_ok_iff.mp hreason
      exact .list hword hwhy
    · intro h
      cases h with
      | list hword hwhy =>
        exact ⟨_, _, rfl, text_eq_ok_iff.mpr ⟨_, rfl, hword⟩, text_eq_ok_iff.mpr ⟨_, rfl, hwhy⟩⟩
  | null | bool _ | number _ | text _ | broken _ | missing _ =>
    exact iff_of_false (Fields.decode_ne_ok (by simp) (by simp)) fun h => by cases h

/-! ## Texts -/

/-- A body says why: it says so from its beginning to its end. -/
def SaidIn (e : Refusal) (body : String) : Prop :=
  ∃ d, Doc.ofPieces (Piece.ofString body) = (d, []) ∧ e.SaidBy d

/-- **A refusal is read from the bodies that say it.** -/
theorem read_eq_ok_iff {body : String} {e : Refusal} : Wire.read body = .ok e ↔ e.SaidIn body := by
  unfold Wire.read Wire.readPieces SaidIn
  obtain ⟨d, rest⟩ := Doc.ofPieces (Piece.ofString body)
  cases rest <;> simp [bind_eq_ok_iff, ← decode_eq_ok_iff]

theorem SaidIn.eq {e e' : Refusal} {body : String} (h : e.SaidIn body) (h' : e'.SaidIn body) :
    e = e' := by
  rw [← read_eq_ok_iff] at h h'
  exact Except.ok.inj (h.symm.trans h')

/-- A text of blanks is no JSON, so it says nothing. -/
theorem not_saidIn_of_isBlank {body : String} (h : IsBlank body) (e : Refusal) :
    ¬ e.SaidIn body := by
  rintro ⟨d, hd, hsaid⟩
  have hpieces : ∀ p ∈ Piece.ofString body, ∃ c, p = .char c ∧ isBlank c = true := by
    intro p hp
    obtain ⟨c, hc, rfl⟩ := List.mem_map.mp hp
    exact ⟨c, rfl, h c hc⟩
  obtain ⟨fault, hfault⟩ := readDoc_of_isBlank hpieces (2 * (Piece.ofString body).length + 1)
  obtain rfl : d = .missing fault := by
    rw [← hfault]
    exact (congrArg Prod.fst hd).symm
  cases hsaid

instance : Wire.Lawful Refusal where
  decodes e :=
    ((Fields.Reads.map Refusal.mk (Fields.reads_text "status" e.status)).seq
      (Fields.reads_text "reason" e.reason)).decodes (by decide) _

theorem saidIn_write (e : Refusal) : e.SaidIn (Wire.write e) :=
  read_eq_ok_iff.mp (Wire.read_write e)

end Refusal

end WalletConsole
