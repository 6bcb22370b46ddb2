import Mathlib.Data.List.TakeWhile
import WalletConsole.Text.Case

/-!
# Lower case of a part of a text

Lower case is taken character by character but for the capital sigma, whose lower case depends on
what stands around it. So a part of a text need not have the same lower case on its own as it has in
the text: cut out of a word behind a sigma, it ends with a `ς` where the word goes on with a `σ`.

* `lowerWithin` — the lower case of a part, as it stands in the text
* `KeepsSigmas`, `lowerWithin_eq_lower_iff` — a part has the same lower case on its own exactly if
  each of its sigmas has
* `HasOpenSigma` — the parts with a sigma on which the surroundings tell
* `lower_infix_of_not_open` — the lower case of any other part is found wherever the part is
* `exists_lower_lost` — the lower case of such a part is not
-/

namespace WalletConsole.Text

/-! ## Parts of a text -/

/--
The lower case of a part of a text, as it stands in the text. What stands before it is kept
backwards.
-/
def lowerWithin (before part after : List Char) : List Char :=
  match part with
  | [] => []
  | c :: rest =>
    (if c = 'Σ' then [lowerSigma before (rest ++ after)] else lowerChar c) ++
      lowerWithin (c :: before) rest after

theorem lowerFrom_append (before s t : List Char) :
    lowerFrom before (s ++ t) = lowerWithin before s t ++ lowerFrom (s.reverse ++ before) t := by
  induction s generalizing before with
  | nil => rfl
  | cons c rest ih =>
    have hbefore : (c :: rest).reverse ++ before = rest.reverse ++ c :: before := by simp
    rw [List.cons_append, lowerFrom, lowerWithin, ih, hbefore, List.append_assoc]

theorem lowerWithin_nil (before part : List Char) :
    lowerWithin before part [] = lowerFrom before part := by
  have happend := lowerFrom_append before part []
  rw [List.append_nil] at happend
  rw [happend, lowerFrom, List.append_nil]

/-- In lower case, a part is still part of the text, as it stands in it. -/
theorem lowerWithin_part (before part after : List Char) :
    lowerWithin before.reverse part after <:+: lower (before ++ part ++ after) := by
  have hparts : lower (before ++ part ++ after) = lowerWithin [] before (part ++ after) ++
      (lowerWithin before.reverse part after ++
        lowerFrom (part.reverse ++ before.reverse) after) := by
    rw [List.append_assoc, lower, lowerFrom_append, List.append_nil, lowerFrom_append]
  exact ⟨_, _, by rw [hparts, List.append_assoc]⟩

theorem length_lowerWithin (before before' part after after' : List Char) :
    (lowerWithin before part after).length = (lowerWithin before' part after').length := by
  induction part generalizing before before' with
  | nil => rfl
  | cons c rest ih =>
    rw [lowerWithin, lowerWithin, List.length_append, List.length_append, ih _ (c :: before')]
    split <;> rfl

/-- The lower case of a part changes with the surroundings exactly if that of a sigma does. -/
theorem lowerWithin_eq_iff {before before' part after after' : List Char} :
    lowerWithin before part after = lowerWithin before' part after' ↔
      ∀ u w, part = u ++ 'Σ' :: w →
        lowerSigma (u.reverse ++ before) (w ++ after) =
          lowerSigma (u.reverse ++ before') (w ++ after') := by
  induction part generalizing before before' with
  | nil => simp [lowerWithin]
  | cons c rest ih =>
    -- a sigma of the text is its first character or one of the rest
    have hsplit : (∀ u w, c :: rest = u ++ 'Σ' :: w →
        lowerSigma (u.reverse ++ before) (w ++ after) =
          lowerSigma (u.reverse ++ before') (w ++ after')) ↔
        (c = 'Σ' → lowerSigma before (rest ++ after) = lowerSigma before' (rest ++ after')) ∧
          ∀ u w, rest = u ++ 'Σ' :: w →
            lowerSigma (u.reverse ++ c :: before) (w ++ after) =
              lowerSigma (u.reverse ++ c :: before') (w ++ after') := by
      constructor
      · intro h
        refine ⟨fun hc => h [] rest (by rw [hc]; rfl), fun u w hrest => ?_⟩
        have hcons := h (c :: u) w (by rw [hrest]; rfl)
        simpa using hcons
      · rintro ⟨hfirst, hrest⟩ u w heq
        rcases List.cons_eq_append_iff.mp heq with ⟨rfl, htail⟩ | ⟨u, rfl, htail⟩
        · obtain ⟨rfl, rfl⟩ := List.cons.inj htail
          exact hfirst rfl
        · simpa using hrest u w htail
    rw [hsplit, ← ih, lowerWithin, lowerWithin]
    split
    · next hc => simp [hc]
    · next hc => simp [hc]

/-! ## Sigmas and their surroundings -/

/-- Each capital sigma of a part has the same lower case in the text as in the part on its own. -/
def KeepsSigmas (before part after : List Char) : Prop :=
  ∀ u w, part = u ++ 'Σ' :: w →
    lowerSigma (u.reverse ++ before.reverse) (w ++ after) = lowerSigma u.reverse w

/-- **A part has the same lower case in the text as on its own exactly if its sigmas have.** -/
theorem lowerWithin_eq_lower_iff {before part after : List Char} :
    lowerWithin before.reverse part after = lower part ↔ KeepsSigmas before part after := by
  rw [lower, ← lowerWithin_nil, lowerWithin_eq_iff]
  simp [KeepsSigmas]

theorem KeepsSigmas.lower_part {before part after : List Char}
    (h : KeepsSigmas before part after) : lower part <:+: lower (before ++ part ++ after) :=
  lowerWithin_eq_lower_iff.mpr h ▸ lowerWithin_part before part after

/-- Is a character looked through on the way to the next letter? -/
def isIgnorable (c : Char) : Bool := inRanges ignorableRanges c.toNat

theorem startsCased_append_of_ignorable {s : List Char} (hs : ∀ c ∈ s, isIgnorable c = true)
    (t : List Char) : startsCased (s ++ t) = startsCased t := by
  have hdrop : s.dropWhile isIgnorable = [] := List.dropWhile_eq_nil_iff.mpr hs
  have hboth : (s ++ t).dropWhile isIgnorable = t.dropWhile isIgnorable := by
    rw [List.dropWhile_append, hdrop]
    rfl
  show (match (s ++ t).dropWhile isIgnorable with
    | [] => false
    | c :: _ => inRanges casedRanges c.toNat) = _
  rw [hboth]
  rfl

theorem startsCased_append_of_not_ignorable {s : List Char}
    (hs : ¬ ∀ c ∈ s, isIgnorable c = true) (t : List Char) :
    startsCased (s ++ t) = startsCased s := by
  have hdrop : s.dropWhile isIgnorable ≠ [] := mt List.dropWhile_eq_nil_iff.mp hs
  show (match (s ++ t).dropWhile isIgnorable with
      | [] => false
      | c :: _ => inRanges casedRanges c.toNat) =
    match s.dropWhile isIgnorable with
      | [] => false
      | c :: _ => inRanges casedRanges c.toNat
  rw [List.dropWhile_append, if_neg (by simpa using hdrop)]
  cases hrest : s.dropWhile isIgnorable with
  | nil => exact absurd hrest hdrop
  | cons c rest => rfl

theorem startsCased_of_ignorable {s : List Char} (hs : ∀ c ∈ s, isIgnorable c = true) :
    startsCased s = false := by
  have hempty := startsCased_append_of_ignorable hs []
  rwa [List.append_nil] at hempty

/--
A part has a capital sigma whose lower case the surroundings decide: one with which it begins and
which no letter follows, or with which it ends behind a letter. What is looked through on the way
to the next letter does not count.
-/
def HasOpenSigma (part : List Char) : Prop :=
  ∃ u w, part = u ++ 'Σ' :: w ∧
    ((∀ c ∈ u, isIgnorable c = true) ∧ startsCased w = false ∨
      startsCased u.reverse = true ∧ ∀ c ∈ w, isIgnorable c = true)

theorem keepsSigmas_of_not_open {part : List Char} (h : ¬ HasOpenSigma part)
    (before after : List Char) : KeepsSigmas before part after := by
  intro u w hpart
  have hreverse : (∀ c ∈ u.reverse, isIgnorable c = true) ↔ ∀ c ∈ u, isIgnorable c = true := by
    simp
  by_cases hu : ∀ c ∈ u, isIgnorable c = true
  · -- a letter behind it in the part keeps the sigma from ending a word anywhere
    have hw : startsCased w = true := by
      rw [← Bool.not_eq_false]
      exact fun hw => h ⟨u, w, hpart, .inl ⟨hu, hw⟩⟩
    have hletter : ¬ ∀ c ∈ w, isIgnorable c = true := by
      intro hall
      rw [startsCased_of_ignorable hall] at hw
      cases hw
    simp [lowerSigma, startsCased_append_of_not_ignorable hletter, hw]
  · have hbefore := startsCased_append_of_not_ignorable (mt hreverse.mp hu) before.reverse
    by_cases hw : ∀ c ∈ w, isIgnorable c = true
    · have hnone : startsCased u.reverse = false := by
        rw [← Bool.not_eq_true]
        exact fun hu => h ⟨u, w, hpart, .inr ⟨hu, hw⟩⟩
      simp [lowerSigma, hbefore, hnone]
    · rw [lowerSigma, lowerSigma, hbefore, startsCased_append_of_not_ignorable hw]

/-- **Without an open sigma, the lower case of a part is found wherever the part is.** -/
theorem lower_infix_of_not_open {part text : List Char} (h : ¬ HasOpenSigma part)
    (hpart : part <:+: text) : lower part <:+: lower text := by
  obtain ⟨before, after, rfl⟩ := hpart
  exact (keepsSigmas_of_not_open h before after).lower_part

/-! ## Open sigmas -/

theorem lower_ne_nil_of_sigma {u w : List Char} : lower (u ++ 'Σ' :: w) ≠ [] := by
  rw [lower, lowerFrom_append]
  simp [lowerFrom]

/-- Behind a letter, a sigma with which the part begins ends a word. -/
theorem not_keepsSigmas_behind_letter {part u w : List Char} {x : Char}
    (hcased : startsCased [x] = true) (hpart : part = u ++ 'Σ' :: w)
    (hu : ∀ c ∈ u, isIgnorable c = true) (hw : startsCased w = false) :
    ¬ KeepsSigmas [x] part [] := by
  intro hkeeps
  have hsame := hkeeps u w hpart
  have hback : ∀ c ∈ u.reverse, isIgnorable c = true := by simpa using hu
  have hbefore : startsCased (u.reverse ++ [x]) = true := by
    rw [startsCased_append_of_ignorable hback, hcased]
  simp [lowerSigma, hbefore, hw, startsCased_of_ignorable hback] at hsame

/-- In front of a letter, a sigma with which the part ends ends no word. -/
theorem not_keepsSigmas_before_letter {part u w : List Char} {x : Char}
    (hcased : startsCased [x] = true) (hpart : part = u ++ 'Σ' :: w)
    (hu : startsCased u.reverse = true) (hw : ∀ c ∈ w, isIgnorable c = true) :
    ¬ KeepsSigmas [] part [x] := by
  intro hkeeps
  have hsame := hkeeps u w hpart
  have hafter : startsCased (w ++ [x]) = true := by
    rw [startsCased_append_of_ignorable hw, hcased]
  simp [lowerSigma, hu, hafter, startsCased_of_ignorable hw] at hsame

/-- A letter that is its own lower case and not a given character. -/
theorem exists_letter_ne (c : Char) :
    ∃ x, x ≠ c ∧ x ≠ 'Σ' ∧ lowerChar x = [x] ∧ startsCased [x] = true := by
  by_cases hc : c = 'a'
  · exact ⟨'b', by rw [hc]; decide, by decide, by decide, by decide +kernel⟩
  · exact ⟨'a', Ne.symm hc, by decide, by decide, by decide +kernel⟩

section Beside

variable {α : Type} {s t : List α} {x : α}

/-- Behind a character that it does not begin with, a text is no part of another of its length. -/
theorem not_infix_cons (hs : s ≠ []) (hx : x ≠ s.head hs) (hne : t ≠ s)
    (hlength : t.length = s.length) : ¬ s <:+: x :: t := by
  rw [List.infix_cons_iff]
  rintro (hfront | hinside)
  · rcases List.prefix_cons_iff.mp hfront with hnil | ⟨rest, rfl, -⟩
    · exact hs hnil
    · exact hx rfl
  · exact hne (hinside.eq_of_length hlength.symm).symm

/-- Nor is it in front of a character that it does not end with. -/
theorem not_infix_concat (hs : s ≠ []) (hx : x ≠ s.getLast hs) (hne : t ≠ s)
    (hlength : t.length = s.length) : ¬ s <:+: t ++ [x] := by
  rw [List.infix_concat_iff]
  rintro (hend | hinside)
  · rcases List.suffix_concat_iff.mp hend with hnil | ⟨rest, rfl, -⟩
    · exact hs hnil
    · exact hx (by rw [List.getLast_concat])
  · exact hne (hinside.eq_of_length hlength.symm).symm

end Beside

/--
**The lower case of a part with an open sigma is not found in every text that the part is in:** one
letter beside the part changes the sigma.
-/
theorem exists_lower_lost {part : List Char} (h : HasOpenSigma part) :
    ∃ text, part <:+: text ∧ ¬ lower part <:+: lower text := by
  obtain ⟨u, w, hpart, hopen⟩ := h
  have hne : lower part ≠ [] := hpart ▸ lower_ne_nil_of_sigma
  have hlength (before after : List Char) :
      (lowerWithin before part after).length = (lower part).length := by
    rw [lower, ← lowerWithin_nil]
    exact length_lowerWithin _ _ _ _ _
  rcases hopen with ⟨hu, hw⟩ | ⟨hu, hw⟩
  · obtain ⟨x, hx, hsigma, hlower, hcased⟩ := exists_letter_ne ((lower part).head hne)
    have htext : lower (x :: part) = x :: lowerWithin [x] part [] := by
      rw [lower, lowerFrom, if_neg hsigma, hlower, lowerWithin_nil]
      rfl
    have hchanges : lowerWithin [x] part [] ≠ lower part := by
      intro heq
      have hkeeps : KeepsSigmas [x] part [] := lowerWithin_eq_lower_iff.mp heq
      exact not_keepsSigmas_behind_letter hcased hpart hu hw hkeeps
    refine ⟨x :: part, (List.suffix_cons x part).isInfix, ?_⟩
    rw [htext]
    exact not_infix_cons hne hx hchanges (hlength _ _)
  · obtain ⟨x, hx, hsigma, hlower, hcased⟩ := exists_letter_ne ((lower part).getLast hne)
    have htext : lower (part ++ [x]) = lowerWithin [] part [x] ++ [x] := by
      rw [lower, lowerFrom_append, lowerFrom, if_neg hsigma, hlower]
      rfl
    have hchanges : lowerWithin [] part [x] ≠ lower part := by
      intro heq
      have hkeeps : KeepsSigmas [] part [x] := lowerWithin_eq_lower_iff.mp heq
      exact not_keepsSigmas_before_letter hcased hpart hu hw hkeeps
    refine ⟨part ++ [x], (List.prefix_append part [x]).isInfix, ?_⟩
    rw [htext]
    exact not_infix_concat hne hx hchanges (hlength _ _)

end WalletConsole.Text
