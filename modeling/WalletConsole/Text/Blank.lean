/-!
# Blanks

Which characters count as white space when a text is trimmed: the `White_Space` property of the
Unicode character database, which is wider than the six ASCII blanks.

* `trim` — a text without the blanks at both ends
* `trim_eq_nil_iff` — nothing is left exactly when every character is blank
* `IsBlank` — a text of blanks only
-/

namespace WalletConsole.Text

/-- The code points with the `White_Space` property, as closed ranges. -/
def blankRanges : List (Nat × Nat) :=
  [(0x09, 0x0D), (0x20, 0x20), (0x85, 0x85), (0xA0, 0xA0), (0x1680, 0x1680), (0x2000, 0x200A),
   (0x2028, 0x2029), (0x202F, 0x202F), (0x205F, 0x205F), (0x3000, 0x3000)]

/-- Does a code point lie in one of the ranges? -/
def inRanges (ranges : List (Nat × Nat)) (n : Nat) : Bool :=
  ranges.any fun r => r.1 ≤ n && n ≤ r.2

/-- White space in the sense of Unicode. -/
def isBlank (c : Char) : Bool := inRanges blankRanges c.toNat

/-! ## Trimming -/

/-- Without the blanks in front. -/
def trimStart (s : List Char) : List Char := s.dropWhile isBlank

/-- Without the blanks at the end. -/
def trimEnd (s : List Char) : List Char := (trimStart s.reverse).reverse

/-- Without the blanks at both ends. -/
def trim (s : List Char) : List Char := trimEnd (trimStart s)

/-- A text without the blanks at both ends. -/
def trimmed (s : String) : String := String.ofList (trim s.toList)

theorem trimStart_eq_nil_iff {s : List Char} : trimStart s = [] ↔ ∀ c ∈ s, isBlank c = true := by
  induction s with
  | nil => simp [trimStart]
  | cons c rest ih =>
    by_cases h : isBlank c = true
    · rw [trimStart, List.dropWhile_cons_of_pos h, List.forall_mem_cons]
      exact ⟨fun none => ⟨h, ih.1 none⟩, fun all => ih.2 all.2⟩
    · rw [trimStart, List.dropWhile_cons_of_neg h]
      simp [h]

/-- What is left begins with a character that is not blank. -/
theorem isBlank_of_trimStart_eq_cons {s rest : List Char} {c : Char} (h : trimStart s = c :: rest) :
    isBlank c = false := by
  have hfirst := List.head?_dropWhile_not isBlank s
  rw [show s.dropWhile isBlank = c :: rest from h] at hfirst
  simpa using hfirst

/-- Trimming leaves nothing exactly when there is nothing but blanks. -/
theorem trim_eq_nil_iff {s : List Char} : trim s = [] ↔ ∀ c ∈ s, isBlank c = true := by
  rw [trim, trimEnd, List.reverse_eq_nil_iff, trimStart_eq_nil_iff]
  constructor
  · intro h
    refine trimStart_eq_nil_iff.mp ?_
    cases hs : trimStart s with
    | nil => rfl
    | cons c rest =>
      have hc : isBlank c = true := h c (by rw [hs]; simp)
      rw [isBlank_of_trimStart_eq_cons hs] at hc
      cases hc
  · intro h c hc
    exact h c (List.dropWhile_sublist _ |>.subset (List.mem_reverse.mp hc))

/-- A text that has no character but blanks. -/
def IsBlank (s : String) : Prop := ∀ c ∈ s.toList, isBlank c = true

theorem trimmed_eq_empty_iff {s : String} : trimmed s = "" ↔ IsBlank s := by
  rw [IsBlank, ← trim_eq_nil_iff, ← String.toList_eq_nil_iff, trimmed, String.toList_ofList]

/-- What trimming leaves does not end in a blank, so it is not blank if there is anything. -/
theorem isBlank_trimmed_iff {s : String} : IsBlank (trimmed s) ↔ IsBlank s := by
  refine ⟨fun h => ?_, fun h => ?_⟩
  · rw [IsBlank, trimmed, String.toList_ofList, trim, trimEnd] at h
    rw [← trimmed_eq_empty_iff, ← String.toList_eq_nil_iff, trimmed, String.toList_ofList, trim,
      trimEnd, List.reverse_eq_nil_iff]
    cases hs : trimStart (trimStart s.toList).reverse with
    | nil => rfl
    | cons c rest =>
      have hc : isBlank c = true := h c (by rw [hs]; simp)
      rw [isBlank_of_trimStart_eq_cons hs] at hc
      cases hc
  · rw [trimmed_eq_empty_iff.mpr h]
    intro c hc
    cases hc

end WalletConsole.Text
