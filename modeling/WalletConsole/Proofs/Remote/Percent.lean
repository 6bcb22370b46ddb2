import WalletConsole.Proofs.Text.Bytes

/-!
# Segments of a path, encoded and decoded

A segment is encoded before it is sent, all but its percent signs: they stay as they are. So a
segment is read as it was meant exactly if no percent sign in it makes an escape with the two
characters behind it, and an escape only ever makes what is read shorter.

* `hasEscape` — is there an escape in a text?
* `hasEscape_map_toLower` — escapes are the same in either case of letters
* `decodedBytes_cons`, `decodedBytes_escape` — what is read of a segment, whether it starts with an
  escape or not
* `percentDecoded_percentEncode_iff` — **a segment is read as it was meant exactly if there is no
  escape in it**
-/

namespace WalletConsole.Remote

open Text

/-! ## ASCII -/

/-- Texts in ASCII are their own bytes. -/
def asciiBytes (s : List Char) : List UInt8 := s.map fun c => UInt8.ofNat c.toNat

theorem utf8EncodeChar_ascii {c : Char} (h : c.toNat < 0x80) :
    String.utf8EncodeChar c = [UInt8.ofNat c.toNat] := by
  have hval : c.val.toNat = c.toNat := rfl
  have hascii : c.toNat ≤ 0x7F := by omega
  simp [String.utf8EncodeChar, hval, hascii]

theorem utf8Bytes_append (s t : List Char) : utf8Bytes (s ++ t) = utf8Bytes s ++ utf8Bytes t :=
  List.flatMap_append

theorem utf8Bytes_ascii {s : List Char} (h : ∀ c ∈ s, c.toNat < 0x80) :
    utf8Bytes s = asciiBytes s := by
  induction s with
  | nil => rfl
  | cons c s ih =>
    have hrest := ih fun x hx => h x (List.mem_cons_of_mem c hx)
    show String.utf8EncodeChar c ++ utf8Bytes s = _
    rw [utf8EncodeChar_ascii (h c List.mem_cons_self), hrest]
    rfl

/-- Escapes are made of percent signs and digits. -/
theorem forall_mem_byteTexts {p : Char → Prop} (hpercent : p '%')
    (hdigit : ∀ n < 16, p (upperHexDigit n)) (bytes : List UInt8) :
    ∀ c ∈ bytes.flatMap byteText, p c := by
  intro c hc
  obtain ⟨b, -, hc⟩ := List.mem_flatMap.mp hc
  have hb : b.toNat < 256 := b.toNat_lt
  simp only [byteText, List.mem_cons, List.not_mem_nil, or_false] at hc
  rcases hc with rfl | rfl | rfl
  · exact hpercent
  · exact hdigit _ (by omega)
  · exact hdigit _ (by omega)

theorem byteTexts_ascii (bytes : List UInt8) : ∀ c ∈ bytes.flatMap byteText, c.toNat < 0x80 :=
  forall_mem_byteTexts (by decide) (by decide) bytes

/-! ## Escapes -/

/-- Is it a hexadecimal digit? -/
def isHexDigit (c : Char) : Bool :=
  (0x30 ≤ c.toNat && c.toNat ≤ 0x39) || (0x41 ≤ c.toNat && c.toNat ≤ 0x46) ||
    (0x61 ≤ c.toNat && c.toNat ≤ 0x66)

/-- Does a text start with a percent sign and two hexadecimal digits? -/
def startsEscape : List Char → Bool
  | '%' :: h :: l :: _ => isHexDigit h && isHexDigit l
  | _ => false

/-- Is there a percent sign with two hexadecimal digits behind it? -/
def hasEscape : List Char → Bool
  | [] => false
  | c :: s => startsEscape (c :: s) || hasEscape s

theorem isSome_hexByte? {c : Char} (h : c.toNat < 0x80) :
    (hexByte? (UInt8.ofNat c.toNat)).isSome = isHexDigit c := by
  have hbyte : (UInt8.ofNat c.toNat).toNat = c.toNat := UInt8.toNat_ofNat_of_lt' (by
    unfold UInt8.size
    omega)
  unfold hexByte? isHexDigit
  simp only [hbyte]
  repeat' split
  all_goals simp_all

/-! ## Letters in either case -/

theorem toLower_cases (c : Char) : c.toLower = c ∨
    (65 ≤ c.toNat ∧ c.toNat ≤ 90) ∧ c.toLower.toNat = c.toNat + 32 := by
  unfold Char.toLower
  split
  · rename_i h
    right
    obtain ⟨hlow, hhigh⟩ := h
    rw [ge_iff_le, UInt32.le_iff_toNat_le] at hlow
    rw [UInt32.le_iff_toNat_le] at hhigh
    have hlow : 65 ≤ c.val.toNat := hlow
    have hhigh : c.val.toNat ≤ 90 := hhigh
    refine ⟨⟨hlow, hhigh⟩, ?_⟩
    show (c.val + ('a'.val - 'A'.val)).toNat = c.val.toNat + 32
    rw [UInt32.toNat_add, show ('a'.val - 'A'.val).toNat = 32 by decide]
    omega
  · exact .inl rfl

/-- Only letters come of letters. -/
theorem toLower_eq_iff {c d : Char} (hd : d.toNat < 65) : c.toLower = d ↔ c = d := by
  rcases toLower_cases c with heq | ⟨hupper, hlower⟩
  · rw [heq]
  · constructor
    · rintro rfl
      omega
    · rintro rfl
      omega

theorem isHexDigit_toLower (c : Char) : isHexDigit c.toLower = isHexDigit c := by
  rcases toLower_cases c with heq | ⟨hupper, hlower⟩
  · rw [heq]
  · rw [Bool.eq_iff_iff]
    simp only [isHexDigit, hlower, Bool.or_eq_true, Bool.and_eq_true, decide_eq_true_eq]
    omega

theorem startsEscape_map_toLower (s : List Char) :
    startsEscape (s.map Char.toLower) = startsEscape s := by
  rcases s with _ | ⟨a, _ | ⟨b, _ | ⟨c, s⟩⟩⟩
  · rfl
  · simp [startsEscape]
  · simp [startsEscape]
  · by_cases ha : a = '%'
    · subst ha
      show (isHexDigit b.toLower && isHexDigit c.toLower) = (isHexDigit b && isHexDigit c)
      rw [isHexDigit_toLower, isHexDigit_toLower]
    · have ha' : a.toLower ≠ '%' := by rwa [ne_eq, toLower_eq_iff (by decide)]
      simp [startsEscape, ha, ha']

/-- Escapes are the same in either case. -/
theorem hasEscape_map_toLower (s : List Char) :
    hasEscape (s.map Char.toLower) = hasEscape s := by
  induction s with
  | nil => rfl
  | cons c s ih =>
    have hstarts := startsEscape_map_toLower (c :: s)
    rw [List.map_cons] at hstarts ⊢
    rw [hasEscape, hasEscape, hstarts, ih]

/-! ## What is read of a segment -/

/-- The bytes of a segment as it is sent. -/
def encodedBytes (s : List Char) : List UInt8 := utf8Bytes (percentEncode pathSet s)

/-- The bytes that are read of a segment. -/
def decodedBytes (s : List Char) : List UInt8 := percentDecode (encodedBytes s)

theorem toNat_of_not_pathSet {c : Char} (h : pathSet c = false) : c.toNat < 0x80 := by
  simp only [pathSet, isControlOrWide, Bool.or_eq_false_iff, decide_eq_false_iff_not] at h
  omega

theorem not_pathSet_of_isHexDigit {c : Char} (h : isHexDigit c = true) : pathSet c = false := by
  simp only [isHexDigit, Bool.or_eq_true, Bool.and_eq_true, decide_eq_true_eq] at h
  rw [pathSet, Bool.or_eq_false_iff]
  constructor
  · simp only [isControlOrWide, Bool.or_eq_false_iff, decide_eq_false_iff_not]
    omega
  · simp only [List.contains_eq_mem, decide_eq_false_iff_not]
    intro hmem
    have hother : " \"#<>?`\x7b\x7d^".toList.any isHexDigit = false := by decide
    have hc := List.any_eq_false.mp hother c hmem
    simp [isHexDigit] at hc
    omega

/-- A character that is encoded is sent as escapes. -/
theorem encodedBytes_of_pathSet {c : Char} (hc : pathSet c = true) (s : List Char) :
    encodedBytes (c :: s) =
      asciiBytes ((String.utf8EncodeChar c).flatMap byteText) ++ encodedBytes s := by
  have hencode : percentEncode pathSet (c :: s) =
      (String.utf8EncodeChar c).flatMap byteText ++ percentEncode pathSet s := by
    simp [percentEncode, hc]
  unfold encodedBytes
  rw [hencode, utf8Bytes_append, utf8Bytes_ascii (byteTexts_ascii _)]

/-- A character that is not encoded is sent as one byte. -/
theorem encodedBytes_of_not_pathSet {c : Char} (hc : pathSet c = false) (s : List Char) :
    encodedBytes (c :: s) = UInt8.ofNat c.toNat :: encodedBytes s := by
  have hencode : percentEncode pathSet (c :: s) = c :: percentEncode pathSet s := by
    simp [percentEncode, hc]
  unfold encodedBytes
  rw [hencode]
  show String.utf8EncodeChar c ++ _ = _
  rw [utf8EncodeChar_ascii (toNat_of_not_pathSet hc)]
  rfl

/-- The first byte is a hexadecimal digit exactly if the first character is one. -/
theorem encodedBytes_cons (c : Char) (s : List Char) : ∃ b rest,
    encodedBytes (c :: s) = b :: rest ∧ (hexByte? b).isSome = isHexDigit c := by
  cases hc : pathSet c with
  | true =>
    have hdigit : isHexDigit c = false := by
      cases hhex : isHexDigit c with
      | false => rfl
      | true =>
        rw [not_pathSet_of_isHexDigit hhex] at hc
        cases hc
    obtain ⟨b, bytes, hbytes⟩ := List.exists_cons_of_ne_nil (String.utf8EncodeChar_ne_nil (c := c))
    refine ⟨0x25, _, by rw [encodedBytes_of_pathSet hc, hbytes]; rfl, ?_⟩
    rw [hdigit]
    decide
  | false =>
    exact ⟨_, _, encodedBytes_of_not_pathSet hc s, isSome_hexByte? (toNat_of_not_pathSet hc)⟩

theorem percentDecode_cons {b : UInt8} (h : b ≠ 0x25) (rest : List UInt8) :
    percentDecode (b :: rest) = b :: percentDecode rest := by
  have hb : (b == 0x25) = false := beq_false_of_ne h
  rcases rest with _ | ⟨h, _ | ⟨l, rest⟩⟩ <;> simp [percentDecode, hb]

/-- A character of ASCII is read as it is, unless it is a percent sign. -/
theorem percentDecode_ascii {c : Char} (hascii : c.toNat < 0x80) (hc : c ≠ '%')
    (rest : List UInt8) : percentDecode (UInt8.ofNat c.toNat :: rest) =
      UInt8.ofNat c.toNat :: percentDecode rest := by
  refine percentDecode_cons ?_ rest
  intro heq
  have hn := congrArg UInt8.toNat heq
  rw [UInt8.toNat_ofNat_of_lt' (by unfold UInt8.size; omega)] at hn
  exact hc (Char.toNat_inj.mp hn)

/-- Bytes that were encoded are read back. -/
theorem percentDecode_byteTexts (bytes rest : List UInt8) :
    percentDecode (asciiBytes (bytes.flatMap byteText) ++ rest) = bytes ++ percentDecode rest := by
  induction bytes with
  | nil => rfl
  | cons b bytes ih =>
    have hhead := percentDecode_byteText b (asciiBytes (bytes.flatMap byteText) ++ rest)
    rw [ih] at hhead
    simpa [asciiBytes] using hhead

theorem decodedBytes_of_ne {c : Char} (hc : c ≠ '%') (s : List Char) :
    decodedBytes (c :: s) = String.utf8EncodeChar c ++ decodedBytes s := by
  unfold decodedBytes
  cases hset : pathSet c with
  | true => rw [encodedBytes_of_pathSet hset, percentDecode_byteTexts]
  | false =>
    have hascii := toNat_of_not_pathSet hset
    rw [encodedBytes_of_not_pathSet hset, percentDecode_ascii hascii hc, utf8EncodeChar_ascii hascii]
    rfl

theorem percentDecode_percent {bytes : List UInt8}
    (h : ∀ a b rest, bytes = a :: b :: rest →
      (hexByte? a).isSome = true → (hexByte? b).isSome = false) :
    percentDecode (0x25 :: bytes) = 0x25 :: percentDecode bytes := by
  rcases bytes with _ | ⟨a, _ | ⟨b, rest⟩⟩
  · rfl
  · rfl
  · have hdigits := h a b rest rfl
    cases ha : hexByte? a with
    | none => simp [percentDecode, ha]
    | some high =>
      rw [ha] at hdigits
      have hb : hexByte? b = none := by simpa using hdigits
      simp [percentDecode, ha, hb]

/-- A percent sign that starts no escape is read as it is. -/
theorem decodedBytes_percent {s : List Char} (h : startsEscape ('%' :: s) = false) :
    decodedBytes ('%' :: s) = String.utf8EncodeChar '%' ++ decodedBytes s := by
  have hpercent : encodedBytes ('%' :: s) = 0x25 :: encodedBytes s :=
    encodedBytes_of_not_pathSet (by decide) s
  unfold decodedBytes
  rw [hpercent]
  refine percentDecode_percent ?_
  intro a b rest hbytes ha
  -- the two bytes come of two characters, as the first of them is a digit
  rcases s with _ | ⟨x, s⟩
  · cases hbytes
  obtain ⟨a', _, hfirst, ha'⟩ := encodedBytes_cons x s
  have hx : isHexDigit x = true := by
    rw [hfirst] at hbytes
    cases hbytes
    rw [← ha', ha]
  rw [encodedBytes_of_not_pathSet (not_pathSet_of_isHexDigit hx), List.cons.injEq] at hbytes
  rcases s with _ | ⟨y, s⟩
  · cases hbytes.2
  obtain ⟨b', _, hsecond, hb'⟩ := encodedBytes_cons y s
  have hy : isHexDigit y = false := by simpa [startsEscape, hx] using h
  rw [hsecond] at hbytes
  cases hbytes.2
  rw [hb', hy]

/-- A character that starts no escape is read as it is. -/
theorem decodedBytes_cons {c : Char} {s : List Char} (h : startsEscape (c :: s) = false) :
    decodedBytes (c :: s) = String.utf8EncodeChar c ++ decodedBytes s := by
  by_cases hc : c = '%'
  · subst hc
    exact decodedBytes_percent h
  · exact decodedBytes_of_ne hc s

/-- The three characters of an escape are read as one byte. -/
theorem decodedBytes_escape {s : List Char} (h : startsEscape s = true) :
    ∃ b rest, decodedBytes s = b :: decodedBytes rest ∧ s.length = rest.length + 3 := by
  unfold startsEscape at h
  split at h
  · rename_i x y rest
    rw [Bool.and_eq_true] at h
    obtain ⟨hx, hy⟩ := h
    have hxset := not_pathSet_of_isHexDigit hx
    have hyset := not_pathSet_of_isHexDigit hy
    rw [← isSome_hexByte? (toNat_of_not_pathSet hxset), Option.isSome_iff_exists] at hx
    rw [← isSome_hexByte? (toNat_of_not_pathSet hyset), Option.isSome_iff_exists] at hy
    obtain ⟨high, hhigh⟩ := hx
    obtain ⟨low, hlow⟩ := hy
    refine ⟨UInt8.ofNat (16 * high + low), rest, ?_, rfl⟩
    unfold decodedBytes
    rw [encodedBytes_of_not_pathSet (by decide), encodedBytes_of_not_pathSet hxset,
      encodedBytes_of_not_pathSet hyset]
    simp [percentDecode, hhigh, hlow]
  · cases h

/-! ## Whole segments -/

theorem decodedBytes_of_not_hasEscape {s : List Char} (h : hasEscape s = false) :
    decodedBytes s = utf8Bytes s := by
  induction s with
  | nil => rfl
  | cons c s ih =>
    simp only [hasEscape, Bool.or_eq_false_iff] at h
    rw [decodedBytes_cons h.1, ih h.2]
    rfl

theorem length_pieces_decodedBytes (s : List Char) :
    (pieces (decodedBytes s)).length + (hasEscape s).toNat ≤ s.length := by
  match s with
  | [] =>
    have hnone : decodedBytes [] = [] := rfl
    rw [hnone, pieces]
    exact Nat.le_refl 0
  | c :: s =>
    cases hstarts : startsEscape (c :: s) with
    | true =>
      obtain ⟨b, rest, hbytes, hlength⟩ := decodedBytes_escape hstarts
      have hrest := length_pieces_decodedBytes rest
      have hpieces := length_pieces_cons_le b (decodedBytes rest)
      have hone : (hasEscape (c :: s)).toNat ≤ 1 := Bool.toNat_le _
      rw [hbytes, hlength]
      omega
    | false =>
      have hrest := length_pieces_decodedBytes s
      rw [decodedBytes_cons hstarts, pieces_utf8EncodeChar]
      simp only [hasEscape, hstarts, Bool.false_or, List.length_cons]
      omega
termination_by s.length
decreasing_by
  all_goals
    simp only [List.length_cons] at *
    omega

/-- What is read of a segment is no longer than the segment, and shorter if there is an escape. -/
theorem length_percentDecoded (s : List Char) :
    (percentDecoded (percentEncode pathSet s)).toList.length + (hasEscape s).toNat ≤ s.length := by
  have hlength : (percentDecoded (percentEncode pathSet s)).toList.length =
      (pieces (decodedBytes s)).length := by
    show (lossy (decodedBytes s)).toList.length = _
    simp [lossy]
  rw [hlength]
  exact length_pieces_decodedBytes s

/-- **A segment is read as it was meant exactly if there is no escape in it.** -/
theorem percentDecoded_percentEncode_iff {s : List Char} :
    percentDecoded (percentEncode pathSet s) = String.ofList s ↔ hasEscape s = false := by
  constructor
  · intro hread
    have hlength := length_percentDecoded s
    rw [hread, String.toList_ofList] at hlength
    cases hescape : hasEscape s with
    | false => rfl
    | true =>
      rw [hescape, Bool.toNat_true] at hlength
      omega
  · intro h
    show lossy (decodedBytes s) = _
    rw [decodedBytes_of_not_hasEscape h, lossy_utf8Bytes]

end WalletConsole.Remote
