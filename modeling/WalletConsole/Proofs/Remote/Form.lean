import Mathlib
import WalletConsole.Proofs.Remote.Address
import WalletConsole.Proofs.Remote.Percent

/-!
# Queries, written and read

A query is written one character at a time. What is written of a name or a value holds neither of
the two separators, so the pairs can be told apart again, and each character is read as it was meant
whatever comes behind it.

* `Form.isWritten` — the characters that names and values are written with
* `Form.decode_encode` — a name or a value is read as it was meant
* `Form.parse_append` — two queries with an ampersand between them are read one after the other
* `Form.parse_serialize` — **a query is read as the pairs that it carries**
-/

namespace WalletConsole.Remote.Form

open Text

/-! ## What is written -/

/-- Characters that names and values are written with. -/
def isWritten (c : Char) : Bool := isPlain c || c == '+' || c == '%'

theorem isWritten_of_mem_encodeChar (c : Char) : ∀ x ∈ encodeChar c, isWritten x = true := by
  intro x hx
  unfold encodeChar at hx
  split at hx
  · next hplain =>
    obtain rfl := List.mem_singleton.mp hx
    simp [isWritten, hplain]
  · split at hx
    · obtain rfl := List.mem_singleton.mp hx
      decide
    · exact forall_mem_byteTexts (p := (isWritten · = true)) (by decide) (by decide) _ x hx

theorem isWritten_of_mem_encode (s : String) : ∀ x ∈ encode s, isWritten x = true := by
  intro x hx
  obtain ⟨c, -, hc⟩ := List.mem_flatMap.mp hx
  exact isWritten_of_mem_encodeChar c x hc

/-- No separator stands in a name or a value. -/
theorem ne_of_mem_encode {s : String} {separator : Char} (hsep : isWritten separator = false) :
    ∀ x ∈ encode s, x ≠ separator := by
  rintro x hx rfl
  rw [isWritten_of_mem_encode s x hx] at hsep
  cases hsep

/-! ## Names and values -/

/-- A character as it stands in a query, but for escapes. -/
def meant (c : Char) : Char := if c = '+' then ' ' else c

theorem ne_of_isPlain {c d : Char} (hc : isPlain c = true) (hd : isPlain d = false) : c ≠ d := by
  rintro rfl
  rw [hc] at hd
  cases hd

theorem toNat_of_isPlain {c : Char} (h : isPlain c = true) : 0x20 < c.toNat ∧ c.toNat < 0x7F := by
  simp only [isPlain, Bool.or_eq_true, beq_iff_eq] at h
  rcases h with (((h | rfl) | rfl) | rfl) | rfl
  · simp only [Char.isAlphanum, Char.isAlpha, Char.isUpper, Char.isLower, Char.isDigit,
      Bool.or_eq_true, Bool.and_eq_true, decide_eq_true_eq, ge_iff_le, UInt32.le_iff_toNat_le] at h
    have hval : c.val.toNat = c.toNat := rfl
    have hA : 'A'.val.toNat = 65 := rfl
    have hZ : 'Z'.val.toNat = 90 := rfl
    have ha : 'a'.val.toNat = 97 := rfl
    have hz : 'z'.val.toNat = 122 := rfl
    have h0 : '0'.val.toNat = 48 := rfl
    have h9 : '9'.val.toNat = 57 := rfl
    omega
  all_goals decide

theorem meant_of_ne {c : Char} (h : c ≠ '+') : meant c = c := if_neg h

theorem map_meant {s : List Char} (h : ∀ c ∈ s, c ≠ '+') : s.map meant = s :=
  (List.map_congr_left fun c hc => meant_of_ne (h c hc)).trans (List.map_id s)

/-- What is written of a character is read as the character, whatever comes behind it. -/
theorem percentDecode_encodeChar (c : Char) (rest : List UInt8) :
    percentDecode (utf8Bytes ((encodeChar c).map meant) ++ rest) =
      String.utf8EncodeChar c ++ percentDecode rest := by
  unfold encodeChar
  split
  · next hplain =>
    have hascii : c.toNat < 0x80 := Nat.lt_of_lt_of_le (toNat_of_isPlain hplain).2 (by decide)
    rw [List.map_singleton, meant_of_ne (ne_of_isPlain hplain (by decide)),
      utf8Bytes_ascii (by simpa using hascii), utf8EncodeChar_ascii hascii]
    exact percentDecode_ascii hascii (ne_of_isPlain hplain (by decide)) rest
  · split
    · next hspace =>
      subst hspace
      exact percentDecode_cons (by decide) rest
    · -- no escape has a plus sign
      rw [map_meant (forall_mem_byteTexts (by decide) (by decide) _),
        utf8Bytes_ascii (byteTexts_ascii _), percentDecode_byteTexts]

theorem percentDecode_encode (s : List Char) :
    percentDecode (utf8Bytes ((s.flatMap encodeChar).map meant)) = utf8Bytes s := by
  induction s with
  | nil => rfl
  | cons c s ih =>
    rw [List.flatMap_cons, List.map_append, utf8Bytes_append, percentDecode_encodeChar, ih]
    rfl

/-- **A name or a value is read as it was meant.** -/
theorem decode_encode (s : String) : decode (encode s) = s := by
  show lossy (percentDecode (utf8Bytes ((s.toList.flatMap encodeChar).map meant))) = s
  rw [percentDecode_encode, lossy_utf8Bytes, String.ofList_toList]

/-! ## Pairs -/

/-- The name of a pair ends at its first equals sign. -/
theorem decodePair_encodePair (p : String × String) : decodePair (encodePair p) = p := by
  have hname : ∀ x ∈ encode p.1, decide (x ≠ '=') = true := fun x hx =>
    decide_eq_true (ne_of_mem_encode (by decide) x hx)
  unfold decodePair encodePair
  rw [List.takeWhile_append_of_pos hname, List.dropWhile_append_of_pos hname]
  simp [decode_encode]

/-- Two queries with an ampersand between them are read one after the other. -/
theorem parse_append (query later : List Char) :
    parse (query ++ '&' :: later) = parse query ++ parse later := by
  unfold parse
  rw [splitWhere_append_cons (by decide), List.filter_append, List.map_append]

theorem parse_encodePair (p : String × String) : parse (encodePair p) = [p] := by
  have hone : ∀ c ∈ encodePair p, (c == '&') = false := by
    intro c hc
    unfold encodePair at hc
    rw [List.mem_append, List.mem_cons] at hc
    rcases hc with hc | rfl | hc
    · exact beq_false_of_ne (ne_of_mem_encode (by decide) c hc)
    · decide
    · exact beq_false_of_ne (ne_of_mem_encode (by decide) c hc)
  have hsome : (encodePair p).isEmpty = false := by simp [encodePair]
  unfold parse
  rw [splitWhere_of_noSeparator hone, List.filter_cons_of_pos (by simp [hsome])]
  simp [decodePair_encodePair]

theorem serialize_singleton (p : String × String) : serialize [p] = encodePair p := by
  simp [serialize]

theorem serialize_cons_cons (p q : String × String) (pairs : List (String × String)) :
    serialize (p :: q :: pairs) = encodePair p ++ '&' :: serialize (q :: pairs) := by
  simp [serialize]

/-- **A query is read as the pairs that it carries.** -/
theorem parse_serialize (pairs : List (String × String)) : parse (serialize pairs) = pairs := by
  induction pairs with
  | nil => rfl
  | cons p pairs ih =>
    cases pairs with
    | nil => rw [serialize_singleton, parse_encodePair]
    | cons q pairs =>
      rw [serialize_cons_cons, parse_append, parse_encodePair, ih]
      rfl

/-- A query is made of the characters of its names and values, and the separators. -/
theorem of_mem_serialize {pairs : List (String × String)} :
    ∀ c ∈ serialize pairs, isWritten c = true ∨ c = '=' ∨ c = '&' := by
  have hpair : ∀ (p : String × String), ∀ c ∈ encodePair p, isWritten c = true ∨ c = '=' := by
    intro p c hc
    rw [encodePair, List.mem_append, List.mem_cons] at hc
    rcases hc with hname | rfl | hvalue
    · exact .inl (isWritten_of_mem_encode _ c hname)
    · exact .inr rfl
    · exact .inl (isWritten_of_mem_encode _ c hvalue)
  induction pairs with
  | nil => exact fun c hc => absurd hc List.not_mem_nil
  | cons p pairs ih =>
    intro c hc
    cases pairs with
    | nil =>
      rw [serialize_singleton] at hc
      exact (hpair p c hc).imp_right .inl
    | cons q pairs =>
      rw [serialize_cons_cons, List.mem_append, List.mem_cons] at hc
      rcases hc with hfirst | rfl | hrest
      · exact (hpair p c hfirst).imp_right .inl
      · exact .inr (.inr rfl)
      · exact ih c hrest

/-- No character of a query ends it, or the line that it stands in. -/
theorem not_querySet_of_mem_serialize {pairs : List (String × String)} :
    ∀ c ∈ serialize pairs, querySet c = false := by
  intro c hc
  rcases of_mem_serialize c hc with hwritten | rfl | rfl
  · simp only [isWritten, Bool.or_eq_true, beq_iff_eq] at hwritten
    rcases hwritten with (hplain | rfl) | rfl
    · obtain ⟨hlow, hhigh⟩ := toNat_of_isPlain hplain
      have hnone : " \"#<>'".toList.any isPlain = false := by decide
      have hother : " \"#<>'".toList.contains c = false := by
        rw [List.contains_eq_mem, decide_eq_false_iff_not]
        intro hmem
        exact List.any_eq_false.mp hnone c hmem hplain
      rw [querySet, isControlOrWide, hother, Bool.or_false, Bool.or_eq_false_iff,
        decide_eq_false_iff_not, decide_eq_false_iff_not]
      omega
    · decide
    · decide
  · decide
  · decide

end WalletConsole.Remote.Form
