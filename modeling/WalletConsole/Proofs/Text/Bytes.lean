import WalletConsole.Remote.Percent

/-!
# Texts as bytes and back

A character that was written as UTF-8 is read back, whatever stands behind it. So bytes that belong
to no character never spoil a character that follows them.

* `pieces_utf8EncodeChar` — a character in front of any bytes, one lemma for each number of bytes
* `pieces_utf8Bytes`, `lossy_utf8Bytes` — a whole text
* `length_pieces_cons_le` — a byte in front adds one piece at most
-/

namespace WalletConsole.Text

open Remote (utf8Bytes)

/-! ## Bytes -/

theorem lead?_of_two {b : Nat} (h : 0xC2 ≤ b) (h' : b ≤ 0xDF) :
    lead? b = some ⟨0x80, 0xBF, 1⟩ := by
  simp [lead?, h, h']

theorem lead?_of_three {b : Nat} (h : 0xE0 ≤ b) (h' : b ≤ 0xEF) :
    lead? b = some ⟨if b = 0xE0 then 0xA0 else 0x80, if b = 0xED then 0x9F else 0xBF, 2⟩ := by
  have hlow : ¬ b ≤ 0xDF := by omega
  by_cases hfirst : b = 0xE0
  · simp [lead?, hfirst]
  by_cases hsurrogates : b = 0xED
  · simp [lead?, hsurrogates]
  have hrest : 0xE1 ≤ b := by omega
  simp [lead?, hlow, hfirst, hsurrogates, hrest, h']

theorem lead?_of_four {b : Nat} (h : 0xF0 ≤ b) (h' : b ≤ 0xF4) :
    lead? b = some ⟨if b = 0xF0 then 0x90 else 0x80, if b = 0xF4 then 0x8F else 0xBF, 3⟩ := by
  have hlow : ¬ b ≤ 0xDF ∧ ¬ b ≤ 0xEF ∧ b ≠ 0xE0 ∧ b ≠ 0xED := by omega
  obtain ⟨htwo, hthree, hfirst, hsurrogates⟩ := hlow
  by_cases hlowest : b = 0xF0
  · simp [lead?, hlowest]
  by_cases hhighest : b = 0xF4
  · simp [lead?, hhighest]
  have hrest : 0xF1 ≤ b ∧ b ≤ 0xF3 := by omega
  simp [lead?, htwo, hthree, hfirst, hsurrogates, hlowest, hhighest, hrest]

/-- The next byte of a character. -/
theorem following_cons {low high more n : Nat} (hlow : low ≤ n) (hhigh : n ≤ high) (hn : n < 256)
    (rest : List UInt8) :
    following low high (more + 1) (UInt8.ofNat n :: rest) = n :: following 0x80 0xBF more rest := by
  simp [following, UInt8.toNat_ofNat_of_lt' hn, hlow, hhigh]

theorem following_zero (low high : Nat) (rest : List UInt8) : following low high 0 rest = [] := by
  simp [following]

/-- A piece from its first byte on, if all the bytes it asks for follow. -/
theorem firstPiece_of_lead {n : Nat} {lead : Lead} {more : List Nat} {rest : List UInt8} {c : Char}
    (hn : n < 256) (hascii : 0x80 ≤ n) (hlead : lead? n = some lead)
    (hmore : following lead.low lead.high lead.more rest = more) (hall : more.length = lead.more)
    (hpoint : codePoint n more = c.toNat) :
    firstPiece (UInt8.ofNat n) rest = (.char c, more.length) := by
  have hsize : ¬ n < 0x80 := by omega
  unfold firstPiece
  simp [UInt8.toNat_ofNat_of_lt' hn, hsize, hlead, hmore, hall, hpoint, Char.ofNat_toNat]

/-! ## One character -/

section

variable {c : Char} (rest : List UInt8)

/-- The code points that are characters: all but the surrogates. -/
theorem toNat_cases (c : Char) : c.toNat < 0xD800 ∨ 0xDFFF < c.toNat ∧ c.toNat < 0x110000 :=
  c.valid

theorem firstPiece_one (h : c.toNat ≤ 0x7F) :
    firstPiece (UInt8.ofNat c.toNat) rest = (.char c, 0) := by
  have hn : c.toNat < 256 := by omega
  have hsize : c.toNat < 0x80 := by omega
  simp [firstPiece, UInt8.toNat_ofNat_of_lt' hn, hsize, Char.ofNat_toNat]

theorem firstPiece_two (h : 0x7F < c.toNat) (h' : c.toNat ≤ 0x7FF) :
    firstPiece (UInt8.ofNat (c.toNat / 64 % 0x20 + 0xC0))
      (UInt8.ofNat (c.toNat % 0x40 + 0x80) :: rest) = (.char c, 1) := by
  have hlead := lead?_of_two (b := c.toNat / 64 % 0x20 + 0xC0) (by omega) (by omega)
  have hmore : following 0x80 0xBF 1 (UInt8.ofNat (c.toNat % 0x40 + 0x80) :: rest) =
      [c.toNat % 0x40 + 0x80] := by
    rw [following_cons (by omega) (by omega) (by omega), following_zero]
  refine firstPiece_of_lead (by omega) (by omega) hlead hmore rfl ?_
  simp only [codePoint, List.length_cons, List.length_nil, List.foldl_cons, List.foldl_nil]
  omega

theorem firstPiece_three (h : 0x7FF < c.toNat) (h' : c.toNat ≤ 0xFFFF) :
    firstPiece (UInt8.ofNat (c.toNat / 4096 % 0x10 + 0xE0))
      (UInt8.ofNat (c.toNat / 64 % 0x40 + 0x80) :: UInt8.ofNat (c.toNat % 0x40 + 0x80) :: rest) =
      (.char c, 2) := by
  have hvalid := toNat_cases c
  have hlead := lead?_of_three (b := c.toNat / 4096 % 0x10 + 0xE0) (by omega) (by omega)
  have hlast : following 0x80 0xBF 1 (UInt8.ofNat (c.toNat % 0x40 + 0x80) :: rest) =
      [c.toNat % 0x40 + 0x80] := by
    rw [following_cons (by omega) (by omega) (by omega), following_zero]
  -- the bounds of the second byte keep out what two bytes can say, and the surrogates
  have hmore : following (if c.toNat / 4096 % 0x10 + 0xE0 = 0xE0 then 0xA0 else 0x80)
      (if c.toNat / 4096 % 0x10 + 0xE0 = 0xED then 0x9F else 0xBF) 2
      (UInt8.ofNat (c.toNat / 64 % 0x40 + 0x80) :: UInt8.ofNat (c.toNat % 0x40 + 0x80) :: rest) =
        [c.toNat / 64 % 0x40 + 0x80, c.toNat % 0x40 + 0x80] := by
    rw [following_cons (by split <;> omega) (by split <;> omega) (by omega), hlast]
  refine firstPiece_of_lead (by omega) (by omega) hlead hmore rfl ?_
  simp only [codePoint, List.length_cons, List.length_nil, List.foldl_cons, List.foldl_nil]
  omega

theorem firstPiece_four (h : 0xFFFF < c.toNat) :
    firstPiece (UInt8.ofNat (c.toNat / 262144 % 0x08 + 0xF0))
      (UInt8.ofNat (c.toNat / 4096 % 0x40 + 0x80) :: UInt8.ofNat (c.toNat / 64 % 0x40 + 0x80) ::
        UInt8.ofNat (c.toNat % 0x40 + 0x80) :: rest) = (.char c, 3) := by
  have hvalid := toNat_cases c
  have hlead := lead?_of_four (b := c.toNat / 262144 % 0x08 + 0xF0) (by omega) (by omega)
  have hlast : following 0x80 0xBF 2 (UInt8.ofNat (c.toNat / 64 % 0x40 + 0x80) ::
      UInt8.ofNat (c.toNat % 0x40 + 0x80) :: rest) =
        [c.toNat / 64 % 0x40 + 0x80, c.toNat % 0x40 + 0x80] := by
    rw [following_cons (by omega) (by omega) (by omega),
      following_cons (by omega) (by omega) (by omega), following_zero]
  -- the bounds of the second byte keep out what three bytes can say, and what is no code point
  have hmore : following (if c.toNat / 262144 % 0x08 + 0xF0 = 0xF0 then 0x90 else 0x80)
      (if c.toNat / 262144 % 0x08 + 0xF0 = 0xF4 then 0x8F else 0xBF) 3
      (UInt8.ofNat (c.toNat / 4096 % 0x40 + 0x80) :: UInt8.ofNat (c.toNat / 64 % 0x40 + 0x80) ::
        UInt8.ofNat (c.toNat % 0x40 + 0x80) :: rest) =
        [c.toNat / 4096 % 0x40 + 0x80, c.toNat / 64 % 0x40 + 0x80, c.toNat % 0x40 + 0x80] := by
    rw [following_cons (by split <;> omega) (by split <;> omega) (by omega), hlast]
  refine firstPiece_of_lead (by omega) (by omega) hlead hmore rfl ?_
  simp only [codePoint, List.length_cons, List.length_nil, List.foldl_cons, List.foldl_nil]
  omega

/-- **A character is read back**, whatever stands behind it. -/
theorem pieces_utf8EncodeChar (c : Char) (rest : List UInt8) :
    pieces (String.utf8EncodeChar c ++ rest) = .char c :: pieces rest := by
  have hval : c.val.toNat = c.toNat := rfl
  unfold String.utf8EncodeChar
  simp only [hval]
  split
  · rename_i h
    simp only [List.cons_append, List.nil_append]
    rw [pieces, firstPiece_one _ h]
    rfl
  split
  · rename_i h h'
    simp only [List.cons_append, List.nil_append]
    rw [pieces, firstPiece_two _ (by omega) h']
    rfl
  split
  · rename_i h h'
    simp only [List.cons_append, List.nil_append]
    rw [pieces, firstPiece_three _ (by omega) h']
    rfl
  · rename_i h
    simp only [List.cons_append, List.nil_append]
    rw [pieces, firstPiece_four _ (by omega)]
    rfl

end

/-! ## Texts -/

/-- A text is read back from its bytes. -/
theorem pieces_utf8Bytes (s : List Char) : pieces (utf8Bytes s) = s.map .char := by
  induction s with
  | nil => simp [utf8Bytes, pieces]
  | cons c s ih =>
    show pieces (String.utf8EncodeChar c ++ utf8Bytes s) = _
    rw [pieces_utf8EncodeChar, ih]
    rfl

theorem lossy_utf8Bytes (s : List Char) : lossy (utf8Bytes s) = String.ofList s := by
  unfold lossy
  rw [pieces_utf8Bytes, List.map_map]
  congr 1
  exact List.map_id s

/-! ## Pieces of any bytes -/

/-- A byte that goes on with a character is a piece of its own where none was started. -/
theorem pieces_of_tail {b : UInt8} (h : 0x80 ≤ b.toNat) (h' : b.toNat ≤ 0xBF)
    (rest : List UInt8) : pieces (b :: rest) = .bad 1 :: pieces rest := by
  have hlead : lead? b.toNat = none := by
    have hnone : ¬ 0xC2 ≤ b.toNat ∧ ¬ 0xE1 ≤ b.toNat ∧ ¬ 0xF1 ≤ b.toNat := by omega
    have hother : b.toNat ≠ 0xE0 ∧ b.toNat ≠ 0xED ∧ b.toNat ≠ 0xF0 ∧ b.toNat ≠ 0xF4 := by omega
    simp [lead?, hnone, hother]
  have hascii : ¬ b.toNat < 0x80 := by omega
  rw [pieces]
  simp [firstPiece, hascii, hlead]

theorem lead?_bounds {b : Nat} {lead : Lead} (h : lead? b = some lead) :
    0x80 ≤ lead.low ∧ lead.high ≤ 0xBF := by
  unfold lead? at h
  repeat' split at h
  all_goals cases h
  all_goals decide

/-- The bytes of a character that was broken off would be pieces of their own. -/
theorem length_pieces_drop_following {low high : Nat} (hlow : 0x80 ≤ low) (hhigh : high ≤ 0xBF)
    (more : Nat) (rest : List UInt8) :
    (pieces (rest.drop (following low high more rest).length)).length ≤ (pieces rest).length := by
  induction more generalizing low high rest with
  | zero => simp [following]
  | succ more ih =>
    cases rest with
    | nil => simp [following]
    | cons b rest =>
      unfold following
      split
      · rename_i hb
        simp only [Bool.and_eq_true, decide_eq_true_eq] at hb
        have hrest : (pieces (rest.drop (following 0x80 0xBF more rest).length)).length ≤
            (pieces rest).length := ih (by omega) (by omega) rest
        rw [pieces_of_tail (by omega) (by omega), List.length_cons, List.length_cons,
          List.drop_succ_cons]
        omega
      · simp

/-- **A byte in front adds one piece at most.** -/
theorem length_pieces_cons_le (b : UInt8) (rest : List UInt8) :
    (pieces (b :: rest)).length ≤ (pieces rest).length + 1 := by
  have hdrop : (pieces (rest.drop (firstPiece b rest).2)).length ≤ (pieces rest).length := by
    unfold firstPiece
    split
    · exact Nat.le_refl _
    split
    · exact Nat.le_refl _
    · rename_i lead hlead
      obtain ⟨hlow, hhigh⟩ := lead?_bounds hlead
      have hfollowing := length_pieces_drop_following hlow hhigh lead.more rest
      dsimp only
      split <;> exact hfollowing
  rw [pieces, List.length_cons]
  omega

end WalletConsole.Text
