import WalletConsole.Json.Wire

/-!
# JSON text, written and read

The text of a value is read as the tree of that value, whatever strings, numbers and nesting it
holds: a reader stops exactly where the text of the value ends.

* `ofChars` — a text as it is read
* `readText_quote` — strings, with every character escaped or not
* `scanNumber_natural`, `scanNumber_signed` — numbers up to the limits of 64 bits
* `readDoc_chars` — values, by induction on the value; lists and objects go on with what follows an
  item or a member
* `ofPieces_write` — **the tree of a text that was written is the tree of its value**
-/

namespace WalletConsole.Json

open Text

/-- A text as it is read, character by character. -/
def ofChars (s : List Char) : List Piece := s.map .char

@[simp] theorem ofChars_nil : ofChars [] = [] := rfl

@[simp] theorem ofChars_cons (c : Char) (s : List Char) :
    ofChars (c :: s) = .char c :: ofChars s := rfl

@[simp] theorem ofChars_append (s t : List Char) : ofChars (s ++ t) = ofChars s ++ ofChars t :=
  List.map_append

/-! ## Strings -/

theorem hexValue?_hexDigit : ∀ n < 16, hexValue? (.char (hexDigit n)) = some n := by decide

theorem utf8Size_hexDigit : ∀ n < 16, (hexDigit n).utf8Size = 1 := by decide

/-- The number of a control character is read back. -/
theorem hexUnit_control {c : Char} (h : isControl c = true) (rest : List Piece) :
    hexUnit (.char '0' :: .char '0' :: .char (hexDigit (c.toNat / 16)) ::
      .char (hexDigit (c.toNat % 16)) :: rest) = .ok c.toNat := by
  have hc : c.toNat < 0x20 := by simpa [isControl] using h
  have hhigh := hexValue?_hexDigit (c.toNat / 16) (by omega)
  have hlow := hexValue?_hexDigit (c.toNat % 16) (by omega)
  have hzero : hexValue? (.char '0') = some 0 := by decide
  have hsizeHigh := utf8Size_hexDigit (c.toNat / 16) (by omega)
  have hsizeLow := utf8Size_hexDigit (c.toNat % 16) (by omega)
  have hsizeZero : '0'.utf8Size = 1 := by decide
  unfold hexUnit
  simp only [List.take_succ_cons, List.take_zero, byteCount, Piece.size, hsizeZero, hsizeHigh,
    hsizeLow, List.mapM_cons, List.mapM_nil, hzero, hhigh, hlow]
  simp
  omega

/-- A control character written by its number is read back. -/
theorem scanEscape_control {c : Char} (h : isControl c = true) (rest : List Piece) :
    scanEscape (.char 'u' :: .char '0' :: .char '0' :: .char (hexDigit (c.toNat / 16)) ::
      .char (hexDigit (c.toNat % 16)) :: rest) = .ok (c, 5) := by
  have hc : c.toNat < 0x20 := by simpa [isControl] using h
  have hlow : isLowSurrogate c.toNat = false := by
    simp only [isLowSurrogate, Bool.and_eq_false_iff, decide_eq_false_iff_not]
    omega
  have hhigh : isHighSurrogate c.toNat = false := by
    simp only [isHighSurrogate, Bool.and_eq_false_iff, decide_eq_false_iff_not]
    omega
  rw [scanEscape, hexUnit_control h]
  simp [bind, Except.bind, hlow, hhigh, Char.ofNat_toNat]

/-- A character of a string is written by a letter, by its number or as it is. -/
theorem escapeChar_cases (c : Char) :
    (∃ letter, escaped? letter = some c ∧ escapeChar c = ['\\', letter]) ∨
    (isControl c = true ∧ escapeChar c =
      ['\\', 'u', '0', '0', hexDigit (c.toNat / 16), hexDigit (c.toNat % 16)]) ∨
    (c ≠ '"' ∧ c ≠ '\\' ∧ isControl c = false ∧ escapeChar c = [c]) := by
  unfold escapeChar
  by_cases hquote : c = '"'
  · exact .inl ⟨'"', by rw [hquote]; rfl, if_pos hquote⟩
  by_cases hslash : c = '\\'
  · exact .inl ⟨'\\', by rw [hslash]; rfl, by simp [hslash]⟩
  by_cases hletter : c ∈ ['\x08', '\x0c', '\n', '\r', '\t']
  · left
    simp only [List.mem_cons, List.not_mem_nil, or_false] at hletter
    rcases hletter with rfl | rfl | rfl | rfl | rfl
    · exact ⟨'b', rfl, rfl⟩
    · exact ⟨'f', rfl, rfl⟩
    · exact ⟨'n', rfl, rfl⟩
    · exact ⟨'r', rfl, rfl⟩
    · exact ⟨'t', rfl, rfl⟩
  right
  simp only [List.mem_cons, List.not_mem_nil, or_false, not_or] at hletter
  obtain ⟨hb, hf, hn, hr, ht⟩ := hletter
  cases hcontrol : isControl c with
  | true => exact .inl ⟨rfl, by simp [hquote, hslash, hb, hf, hn, hr, ht]⟩
  | false => exact .inr ⟨hquote, hslash, rfl, by simp [hquote, hslash, hb, hf, hn, hr, ht]⟩

theorem escaped?_ne_u {letter c : Char} (h : escaped? letter = some c) : letter ≠ 'u' := by
  rintro rfl
  cases h

theorem scanEscape_letter {letter c : Char} (h : escaped? letter = some c) (rest : List Piece) :
    scanEscape (.char letter :: rest) = .ok (c, 1) := by
  unfold scanEscape
  split
  · rename_i heq; cases heq
  · rename_i heq; cases heq
  · rename_i heq
    cases heq
    exact absurd rfl (escaped?_ne_u h)
  · rename_i heq
    cases heq
    rw [h]

theorem skipEscape_letter {letter c : Char} (h : escaped? letter = some c) (rest : List Piece) :
    skipEscape (.char letter :: rest) = .ok 1 := by
  unfold skipEscape
  split
  · rename_i heq; cases heq
  · rename_i heq; cases heq
  · rename_i heq
    cases heq
    exact absurd rfl (escaped?_ne_u h)
  · rename_i heq
    cases heq
    rw [h]; rfl

/-- A character of a string is read back. -/
theorem scanText_escapeChar (c : Char) (before : List Char) (rest : List Piece) :
    scanText false before (ofChars (escapeChar c) ++ rest) = scanText false (c :: before) rest := by
  rcases escapeChar_cases c with ⟨letter, hletter, heq⟩ | ⟨hcontrol, heq⟩ | ⟨hq, hs, hc, heq⟩
  · rw [heq]
    simp only [ofChars_cons, ofChars_nil, List.cons_append, List.nil_append]
    rw [scanText]
    simp [scanEscape_letter hletter]
  · rw [heq]
    simp only [ofChars_cons, ofChars_nil, List.cons_append, List.nil_append]
    rw [scanText]
    simp [scanEscape_control hcontrol]
  · rw [heq]
    simp only [ofChars_cons, ofChars_nil, List.cons_append, List.nil_append]
    rw [scanText]
    simp [hq, hs, hc]

/-- A character of a string is skipped. -/
theorem skipText_escapeChar (c : Char) (rest : List Piece) :
    skipText (ofChars (escapeChar c) ++ rest) = skipText rest := by
  rcases escapeChar_cases c with ⟨letter, hletter, heq⟩ | ⟨hcontrol, heq⟩ | ⟨hq, hs, hc, heq⟩
  · rw [heq]
    simp only [ofChars_cons, ofChars_nil, List.cons_append, List.nil_append]
    rw [skipText]
    simp [skipEscape_letter hletter]
  · rw [heq]
    simp only [ofChars_cons, ofChars_nil, List.cons_append, List.nil_append]
    rw [skipText]
    simp [skipEscape, hexUnit_control hcontrol, Except.map]
  · rw [heq]
    simp only [ofChars_cons, ofChars_nil, List.cons_append, List.nil_append]
    rw [skipText]
    simp [hq, hs, hc]

theorem scanText_escape (s before : List Char) (rest : List Piece) :
    scanText false before (ofChars (s.flatMap escapeChar) ++ rest) =
      scanText false (s.reverse ++ before) rest := by
  induction s generalizing before with
  | nil => rfl
  | cons c s ih =>
    rw [List.flatMap_cons, ofChars_append, List.append_assoc, scanText_escapeChar, ih]
    simp

theorem skipText_escape (s : List Char) (rest : List Piece) :
    skipText (ofChars (s.flatMap escapeChar) ++ rest) = skipText rest := by
  induction s with
  | nil => rfl
  | cons c s ih =>
    rw [List.flatMap_cons, ofChars_append, List.append_assoc, skipText_escapeChar, ih]

/-- **A string is read back**, up to its closing quote. -/
theorem readText_quote (s : String) (rest : List Piece) :
    readText (ofChars (s.toList.flatMap escapeChar) ++ .char '"' :: rest) = (.sound s, rest) := by
  have hscan : scanText false [] (ofChars (s.toList.flatMap escapeChar) ++ .char '"' :: rest) =
      .ok (s, rest) := by
    rw [scanText_escape, scanText]
    simp
  have hskip : skipText (ofChars (s.toList.flatMap escapeChar) ++ .char '"' :: rest) =
      .ok rest := by
    rw [skipText_escape, skipText]
    simp
  unfold readText
  rw [hscan, hskip]
  rfl

/-! ## Numbers -/

/-- Can this follow a value inside a text: the end, or what ends an item or a member? -/
inductive EndsValue : List Piece → Prop where
  | nil : EndsValue []
  | cons {c : Char} (rest : List Piece) (h : c ∈ [',', ']', '\x7d']) : EndsValue (.char c :: rest)

theorem isDigit_toDigits {n : Nat} {c : Char} (h : c ∈ Nat.toDigits 10 n) : c.isDigit = true :=
  Nat.isDigit_of_mem_toDigits (by decide) (by decide) h

/-- The value of a character that is a digit. -/
def digitValue (c : Char) : Nat := c.toNat - '0'.toNat

theorem digit?_of_isDigit {c : Char} (h : c.isDigit = true) :
    digit? (.char c) = some (digitValue c) := if_pos h

theorem scanDigits_of_endsValue {rest : List Piece} (h : EndsValue rest) :
    scanDigits rest = ([], rest) := by
  cases h with
  | nil => rfl
  | cons rest hc =>
    have hnone : ∀ c ∈ [',', ']', '\x7d'], digit? (.char c) = none := by simp [digit?]
    simp [scanDigits, hnone _ hc]

theorem scanDigits_append {ds : List Char} (hds : ∀ c ∈ ds, c.isDigit = true) {rest : List Piece}
    (h : EndsValue rest) : scanDigits (ofChars ds ++ rest) = (ds.map digitValue, rest) := by
  induction ds with
  | nil => exact scanDigits_of_endsValue h
  | cons c ds ih =>
    have hc := digit?_of_isDigit (hds c List.mem_cons_self)
    have hrest := ih fun d hd => hds d (List.mem_cons_of_mem _ hd)
    simp [scanDigits, hc, hrest]

/-- Only zero is written with a zero in front. -/
theorem head?_toDigits_ne_zero {n : Nat} (h : 0 < n) : (Nat.toDigits 10 n).head? ≠ some '0' := by
  induction n using Nat.strongRecOn with
  | _ n ih =>
    by_cases hn : n < 10
    · rw [Nat.toDigits_of_lt_base hn]
      simp
      omega
    · rw [Nat.toDigits_of_base_le (by decide) (by omega), List.head?_append]
      have hq := ih (n / 10) (by omega) (by omega)
      cases hd : Nat.toDigits 10 (n / 10) with
      | nil => exact absurd hd Nat.toDigits_ne_nil
      | cons c ds => simpa [hd] using hq

theorem digitValue_eq_zero {c : Char} (h : c.isDigit = true) : digitValue c = 0 ↔ c = '0' := by
  constructor
  · intro hz
    have hlow : '0'.toNat ≤ c.toNat := by
      simp only [Char.isDigit, Bool.and_eq_true, decide_eq_true_eq] at h
      exact h.1
    have hc : c.toNat = '0'.toNat := by
      unfold digitValue at hz
      omega
    rw [← Char.ofNat_toNat c, hc]
    rfl
  · rintro rfl
    rfl

/-- The digits of a number are read as the digits before a point. -/
theorem scanWhole_toDigits (n : Nat) {rest : List Piece} (h : EndsValue rest) :
    scanWhole (ofChars (Nat.toDigits 10 n) ++ rest) =
      .ok ((Nat.toDigits 10 n).map digitValue, rest) := by
  have hscan := scanDigits_append (fun _ => isDigit_toDigits (n := n)) h
  unfold scanWhole scanSomeDigits
  rw [hscan]
  cases hd : Nat.toDigits 10 n with
  | nil => exact absurd hd Nat.toDigits_ne_nil
  | cons c ds =>
    cases ds with
    | nil => simp
    | cons d ds =>
      have hn : 0 < n := by
        rcases Nat.eq_zero_or_pos n with rfl | hpos
        · simp [Nat.toDigits_zero] at hd
        · exact hpos
      have hzero : digitValue c ≠ 0 := by
        rw [ne_eq, digitValue_eq_zero (isDigit_toDigits (n := n) (by simp [hd]))]
        rintro rfl
        exact head?_toDigits_ne_zero hn (by rw [hd]; rfl)
      simp only [List.map_cons]
      split
      · rename_i heq
        simp only [Except.ok.injEq, Prod.mk.injEq, List.cons.injEq] at heq
        exact absurd heq.1.1 hzero
      · rfl

theorem le_foldl_digits (n : Nat) (ds : List Nat) : n ≤ ds.foldl (fun n d => 10 * n + d) n := by
  induction ds generalizing n with
  | nil => exact Nat.le_refl n
  | cons d ds ih => exact Nat.le_trans (by omega) (ih (10 * n + d))

/-- All digits of a number that fits are taken. -/
theorem takeFitting_of_lt {n : Nat} {ds : List Nat}
    (h : ds.foldl (fun n d => 10 * n + d) n < UInt64.size) :
    takeFitting n ds = (ds.foldl (fun n d => 10 * n + d) n, []) := by
  induction ds generalizing n with
  | nil => rfl
  | cons d ds ih =>
    have hle := le_foldl_digits (10 * n + d) ds
    have hd : 10 * n + d < UInt64.size := Nat.lt_of_le_of_lt hle h
    unfold takeFitting
    rw [if_pos hd]
    exact ih h

theorem takeFitting_toDigits {n : Nat} (h : n < UInt64.size) :
    takeFitting 0 ((Nat.toDigits 10 n).map digitValue) = (n, []) := by
  have hvalue : ((Nat.toDigits 10 n).map digitValue).foldl (fun n d => 10 * n + d) 0 = n := by
    rw [List.foldl_map]
    exact Nat.ofDigitChars_ten_toDigits
  rw [takeFitting_of_lt (by rw [hvalue]; exact h), hvalue]

theorem scanFraction_of_endsValue {rest : List Piece} (h : EndsValue rest) :
    scanFraction rest = .ok (none, rest) := by
  cases h with
  | nil => rfl
  | cons rest hc =>
    simp only [List.mem_cons, List.not_mem_nil, or_false] at hc
    rcases hc with rfl | rfl | rfl <;> rfl

theorem scanExponent_of_endsValue {rest : List Piece} (h : EndsValue rest) :
    scanExponent rest = .ok (none, rest) := by
  cases h with
  | nil => rfl
  | cons rest hc =>
    simp only [List.mem_cons, List.not_mem_nil, or_false] at hc
    rcases hc with rfl | rfl | rfl <;> rfl

/-- The sign of a number is read apart from its digits. -/
theorem scanSign_integerText (n : Int) (rest : List Piece) :
    scanSign (ofChars (integerText n) ++ rest) =
      (decide (n < 0), ofChars (Nat.toDigits 10 n.natAbs) ++ rest) := by
  unfold integerText
  by_cases hn : n < 0
  · simp [hn, scanSign]
  · cases hd : Nat.toDigits 10 n.natAbs with
    | nil => exact absurd hd Nat.toDigits_ne_nil
    | cons c ds =>
      have hc : c.isDigit = true := isDigit_toDigits (n := n.natAbs) (by simp [hd])
      simp only [hn, if_false, ofChars_cons, List.cons_append, decide_false]
      unfold scanSign
      split
      · rename_i heq
        cases heq
        simp at hc
      · rfl

/-- An integer is spelled by its sign and its digits. -/
theorem scanSpelling_integerText (n : Int) {rest : List Piece} (h : EndsValue rest) :
    scanSpelling (ofChars (integerText n) ++ rest) =
      .ok (⟨decide (n < 0), (Nat.toDigits 10 n.natAbs).map digitValue, [], none, true⟩, rest) := by
  unfold scanSpelling
  rw [scanSign_integerText]
  simp [scanWhole_toDigits _ h, scanFraction_of_endsValue h, scanExponent_of_endsValue h, bind,
    Except.bind, pure, Except.pure]

theorem scanNumber_natural (n : UInt64) {rest : List Piece} (h : EndsValue rest) :
    scanNumber (ofChars (integerText n.toNat) ++ rest) = (.sound (.natural n), rest) := by
  have hfits := takeFitting_toDigits n.toNat_lt
  unfold scanNumber
  rw [scanSpelling_integerText _ h]
  simp [Spelling.value, hfits, Reading.sound]
  
theorem scanNumber_signed (n : Int64) {rest : List Piece} (h : EndsValue rest) :
    scanNumber (ofChars (integerText n.toInt) ++ rest) =
      (.sound (if n < 0 then .negative n else .natural n.toInt.toNat.toUInt64), rest) := by
  have hlow : -9223372036854775808 ≤ n.toInt := n.minValue_le_toInt
  have hhigh : n.toInt ≤ 9223372036854775807 := n.toInt_le
  have hfits : n.toInt.natAbs < UInt64.size := by
    unfold UInt64.size
    omega
  have htake := takeFitting_toDigits hfits
  have hsign : n < 0 ↔ n.toInt < 0 := Int64.lt_iff_toInt_lt
  unfold scanNumber
  rw [scanSpelling_integerText _ h]
  by_cases hn : n.toInt < 0
  · have hneg : n.toInt.natAbs ≠ 0 ∧ n.toInt.natAbs ≤ UInt64.size / 2 := by
      unfold UInt64.size
      omega
    have hvalue : -(n.toInt.natAbs : Int) = n.toInt := by omega
    generalize n.toInt.natAbs = size at hneg hvalue htake ⊢
    simp [Spelling.value, htake, Reading.sound, hn, hsign, hneg, hvalue]
  · have hvalue : n.toNatClampNeg = n.toInt.natAbs := by
      show n.toInt.toNat = _
      omega
    simp [Spelling.value, htake, Reading.sound, hn, hsign, hvalue]

/-! ## Values -/

/-- What an integer starts with: a minus sign or a digit. -/
def StartsInteger (c : Char) : Prop := c = '-' ∨ c.isDigit = true

theorem integerText_eq_cons (n : Int) : ∃ c s, integerText n = c :: s ∧ StartsInteger c := by
  unfold integerText
  split
  · exact ⟨'-', _, rfl, .inl rfl⟩
  · cases hd : Nat.toDigits 10 n.natAbs with
    | nil => exact absurd hd Nat.toDigits_ne_nil
    | cons c ds => exact ⟨c, ds, rfl, .inr (isDigit_toDigits (n := n.natAbs) (by simp [hd]))⟩

/-- The characters that a reader tries before it comes to numbers. -/
theorem StartsInteger.ne {c : Char} (h : StartsInteger c) :
    ∀ d ∈ ['n', 't', 'f', '"', ']', ' ', '\n', '\t', '\r'], c ≠ d := by
  have hnone : ['n', 't', 'f', '"', ']', ' ', '\n', '\t', '\r'].any
      (fun d => d == '-' || d.isDigit) = false := by decide
  rintro d hd rfl
  exact List.any_eq_false.mp hnone c hd (by simpa [StartsInteger] using h)

theorem StartsInteger.isSpace {c : Char} (h : StartsInteger c) : isSpace (.char c) = false := by
  simp only [Json.isSpace, Bool.or_eq_false_iff, beq_eq_false_iff_ne]
  exact ⟨⟨⟨h.ne _ (by simp), h.ne _ (by simp)⟩, h.ne _ (by simp)⟩, h.ne _ (by simp)⟩

/-- A value starts with a character that is no blank and closes no list. -/
theorem chars_eq_cons (v : Value) :
    ∃ c s, v.chars = c :: s ∧ isSpace (.char c) = false ∧ c ≠ ']' := by
  have hinteger : ∀ n : Int,
      ∃ c s, integerText n = c :: s ∧ isSpace (.char c) = false ∧ c ≠ ']' := by
    intro n
    obtain ⟨c, s, heq, hc⟩ := integerText_eq_cons n
    exact ⟨c, s, heq, hc.isSpace, hc.ne _ (by simp)⟩
  cases v with
  | null => exact ⟨'n', _, rfl, by decide, by decide⟩
  | bool b => cases b <;> exact ⟨_, _, rfl, by decide, by decide⟩
  | natural n => exact hinteger n.toNat
  | signed n => exact hinteger n.toInt
  | text s => exact ⟨'"', _, rfl, by decide, by decide⟩
  | list xs => cases xs <;> exact ⟨'[', _, rfl, by decide, by decide⟩
  | object ms =>
    rcases ms with _ | ⟨⟨key, v⟩, ms⟩ <;> exact ⟨'\x7b', _, rfl, by decide, by decide⟩

/-- An integer is read up to its last digit. -/
theorem readDoc_integerText (n : Int) (fuel : Nat) (rest : List Piece) :
    readDoc (fuel + 1) (ofChars (integerText n) ++ rest) =
      (.number (scanNumber (ofChars (integerText n) ++ rest)).1,
        (scanNumber (ofChars (integerText n) ++ rest)).2) := by
  obtain ⟨c, s, heq, hc⟩ := integerText_eq_cons n
  have hnumber : (c = '-' || c.isDigit) = true := by simpa [StartsInteger] using hc
  simp only [heq, ofChars_cons, List.cons_append]
  rw [readDoc]
  simp [skipSpace, hc.isSpace, hc.ne 'n', hc.ne 't', hc.ne 'f', hc.ne '"', hnumber]

/-- The text of a string value. -/
theorem readDoc_quote (s : String) (fuel : Nat) (rest : List Piece) :
    readDoc (fuel + 1) (ofChars (quote s) ++ rest) = (.text (.sound s), rest) := by
  have hread := readText_quote s rest
  unfold quote
  simp only [ofChars_append, ofChars_cons, ofChars_nil, List.cons_append, List.append_assoc,
    List.nil_append]
  rw [readDoc]
  simp [skipSpace, isSpace, hread]

/-! ### Lists and objects -/

section

variable {fuel : Nat} {s s' rest : List Piece} {p : Piece} {d : Doc}

theorem readDoc_list {items : Items} (hskip : skipSpace s = p :: s') (hp : p ≠ .char ']')
    (hread : readItems fuel (p :: s') = (items, rest)) :
    readDoc (fuel + 1) (.char '[' :: s) = (.list items, rest) := by
  rw [readDoc]
  simp only [skipSpace] at hskip ⊢
  simp [isSpace, hskip, hp, hread]

theorem readItems_closed (hread : readDoc fuel s = (d, .char ']' :: rest)) :
    readItems (fuel + 1) s = (.item d .closed, rest) := by
  rw [readItems, hread]
  simp [skipSpace, isSpace]

theorem readItems_comma {items : Items} (hread : readDoc fuel s = (d, .char ',' :: s'))
    {s'' : List Piece} (hskip : skipSpace s' = p :: s'') (hp : p ≠ .char ']')
    (hrest : readItems fuel (p :: s'') = (items, rest)) :
    readItems (fuel + 1) s = (.item d items, rest) := by
  rw [readItems, hread]
  simp only [skipSpace] at hskip ⊢
  simp [isSpace, hskip, hp, hrest]

theorem readDoc_object {members : Members}
    (hread : readMembers fuel (.char '"' :: s) = (members, rest)) :
    readDoc (fuel + 1) (.char '\x7b' :: .char '"' :: s) = (.object members, rest) := by
  rw [readDoc]
  simp [skipSpace, isSpace, hread]

theorem readMembers_closed (key : String) (hread : readDoc fuel s = (d, .char '\x7d' :: rest)) :
    readMembers (fuel + 1) (ofChars (quote key) ++ .char ':' :: s) =
      (.member (.sound key) d .closed, rest) := by
  have hkey := readText_quote key (.char ':' :: s)
  simp only [quote, ofChars_append, ofChars_cons, ofChars_nil, List.cons_append, List.append_assoc,
    List.nil_append]
  rw [readMembers]
  simp [hkey, skipSpace, isSpace, hread]

theorem readMembers_comma (key : String) {members : Members}
    (hread : readDoc fuel s = (d, .char ',' :: .char '"' :: s'))
    (hrest : readMembers fuel (.char '"' :: s') = (members, rest)) :
    readMembers (fuel + 1) (ofChars (quote key) ++ .char ':' :: s) =
      (.member (.sound key) d members, rest) := by
  have hkey := readText_quote key (.char ':' :: s)
  simp only [quote, ofChars_append, ofChars_cons, ofChars_nil, List.cons_append, List.append_assoc,
    List.nil_append]
  rw [readMembers]
  simp [hkey, skipSpace, isSpace, hread, hrest]

end

theorem endsValue_laterItems (xs : List Value) (rest : List Piece) :
    EndsValue (ofChars (laterItems xs) ++ rest) := by
  cases xs <;> exact .cons _ (by decide)

theorem endsValue_laterMembers (ms : List (String × Value)) (rest : List Piece) :
    EndsValue (ofChars (laterMembers ms) ++ rest) := by
  rcases ms with _ | ⟨⟨key, v⟩, ms⟩ <;> exact .cons _ (by decide)

/-- What is read of a value starts with a character that is not skipped. -/
theorem skipSpace_chars (v : Value) (rest : List Piece) : ∃ p s,
    ofChars v.chars ++ rest = p :: s ∧ skipSpace (ofChars v.chars ++ rest) = p :: s ∧
      p ≠ .char ']' := by
  obtain ⟨c, s, heq, hspace, hclose⟩ := chars_eq_cons v
  refine ⟨.char c, ofChars s ++ rest, by rw [heq]; rfl, ?_, by simpa using hclose⟩
  simp [heq, skipSpace, hspace]

mutual

/-- **A value is read back**, up to its last character. -/
theorem readDoc_chars (v : Value) (fuel : Nat) (hfuel : 2 * v.chars.length ≤ fuel)
    {rest : List Piece} (h : EndsValue rest) :
    readDoc fuel (ofChars v.chars ++ rest) = (v.toDoc, rest) := by
  have hpos : 0 < v.chars.length := by
    obtain ⟨c, s, heq, -⟩ := chars_eq_cons v
    simp [heq]
  obtain ⟨fuel, rfl⟩ : ∃ n, fuel = n + 1 := ⟨fuel - 1, by omega⟩
  cases v with
  | null => rfl
  | bool b => cases b <;> rfl
  | natural n =>
    have hnumber := scanNumber_natural n h
    show readDoc _ (ofChars (integerText n.toNat) ++ rest) = _
    rw [readDoc_integerText, hnumber]
    rfl
  | signed n =>
    have hnumber := scanNumber_signed n h
    show readDoc _ (ofChars (integerText n.toInt) ++ rest) = _
    rw [readDoc_integerText, hnumber]
    rfl
  | text s => exact readDoc_quote s fuel rest
  | list xs =>
    cases xs with
    | nil => rfl
    | cons x xs =>
      simp only [Value.chars, List.length_cons, List.length_append] at hfuel
      obtain ⟨fuel, rfl⟩ : ∃ n, fuel = n + 1 := ⟨fuel - 1, by omega⟩
      have hx := readDoc_chars x fuel (by omega) (endsValue_laterItems xs rest)
      have hxs := readItems_of_readDoc xs (by omega) hx
      obtain ⟨p, s, heq, hskip, hp⟩ := skipSpace_chars x (ofChars (laterItems xs) ++ rest)
      rw [heq] at hxs
      simp only [Value.chars, ofChars_cons, ofChars_append, List.cons_append, List.append_assoc]
      exact readDoc_list hskip hp hxs
  | object ms =>
    rcases ms with _ | ⟨⟨key, v⟩, ms⟩
    · rfl
    · simp only [Value.chars, List.length_cons, List.length_append] at hfuel
      obtain ⟨fuel, rfl⟩ : ∃ n, fuel = n + 1 := ⟨fuel - 1, by omega⟩
      have hv := readDoc_chars v fuel (by omega) (endsValue_laterMembers ms rest)
      have hms := readMembers_of_readDoc key ms (by omega) hv
      simp only [Value.chars, ofChars_cons, ofChars_append, List.cons_append, List.append_assoc]
      exact readDoc_object hms

/-- A list is read to its end from an item that was read. -/
theorem readItems_of_readDoc (xs : List Value) {fuel : Nat} {s rest : List Piece} {d : Doc}
    (hfuel : 2 * (laterItems xs).length ≤ fuel + 2)
    (hread : readDoc fuel s = (d, ofChars (laterItems xs) ++ rest)) :
    readItems (fuel + 1) s = (.item d (itemsOf xs), rest) := by
  cases xs with
  | nil => exact readItems_closed hread
  | cons x xs =>
    have hpos : 0 < (laterItems xs).length := by cases xs <;> simp [laterItems]
    simp only [laterItems, List.length_cons, List.length_append] at hfuel
    obtain ⟨fuel, rfl⟩ : ∃ n, fuel = n + 1 := ⟨fuel - 1, by omega⟩
    have hx := readDoc_chars x fuel (by omega) (endsValue_laterItems xs rest)
    have hxs := readItems_of_readDoc xs (by omega) hx
    obtain ⟨p, s, heq, hskip, hp⟩ := skipSpace_chars x (ofChars (laterItems xs) ++ rest)
    rw [heq] at hxs
    simp only [laterItems, ofChars_cons, ofChars_append, List.cons_append, List.append_assoc]
      at hread
    exact readItems_comma hread hskip hp hxs

/-- An object is read to its end from a member whose value was read. -/
theorem readMembers_of_readDoc (key : String) (ms : List (String × Value)) {fuel : Nat}
    {s rest : List Piece} {d : Doc} (hfuel : 2 * (laterMembers ms).length ≤ fuel + 2)
    (hread : readDoc fuel s = (d, ofChars (laterMembers ms) ++ rest)) :
    readMembers (fuel + 1) (ofChars (quote key) ++ .char ':' :: s) =
      (.member (.sound key) d (membersOf ms), rest) := by
  rcases ms with _ | ⟨⟨later, v⟩, ms⟩
  · exact readMembers_closed key hread
  · simp only [laterMembers, List.length_cons, List.length_append] at hfuel
    obtain ⟨fuel, rfl⟩ : ∃ n, fuel = n + 1 := ⟨fuel - 1, by omega⟩
    have hv := readDoc_chars v fuel (by omega) (endsValue_laterMembers ms rest)
    have hms := readMembers_of_readDoc later ms (by omega) hv
    simp only [laterMembers, ofChars_cons, ofChars_append, List.cons_append, List.append_assoc]
      at hread
    exact readMembers_comma key hread hms

end

/-- **The tree of a text that was written is the tree of its value**, and nothing follows it. -/
theorem ofPieces_write (v : Value) : Doc.ofPieces (Piece.ofString v.write) = (v.toDoc, []) := by
  have hread := readDoc_chars v (2 * v.chars.length + 2) (by omega) .nil
  rw [List.append_nil] at hread
  have hpieces : Piece.ofString v.write = ofChars v.chars := by
    simp [Piece.ofString, Value.write, ofChars]
  unfold Doc.ofPieces
  rw [hpieces, ofChars, List.length_map, ← ofChars, hread]
  rfl

end WalletConsole.Json
