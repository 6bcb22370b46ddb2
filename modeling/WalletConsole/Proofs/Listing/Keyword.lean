import WalletConsole.Listing.ApiKeys
import WalletConsole.Listing.Transactions
import WalletConsole.Proofs.Listing.Operations
import WalletConsole.Proofs.Text.Case

/-!
# Keywords copied from a row

A keyword that is copied from one of the texts of a row is meant to find the row. Text and keyword
are compared in lower case, each on its own, so the row is lost where a capital sigma has another
lower case in the keyword than in the text: when the keyword is cut out of a Greek word behind it.

* `hasKeyword_of_keepsSigmas` — a row is found by what stands in it with the same sigmas
* `FindsCopies` — when a keyword finds a row that it is copied from, and when it finds them all
* `keywords_find_copies` — so it is in each of the four lists
-/

namespace WalletConsole

open Calendar Text

variable {R : Type} [Record R]

/-- The keyword is part of one of the texts of a row, character for character. -/
def StandsIn (keyword : String) (row : R) : Prop :=
  ∃ text ∈ Record.searchTexts row, keyword.toList <:+: text.toList

theorem hasKeyword_of_part {row : R} {keyword text : String}
    (htext : text ∈ Record.searchTexts row)
    (hinside : lower keyword.toList <:+: lower text.toList) : hasKeyword keyword row = true :=
  hasKeyword_iff.mpr (.inr ⟨text, htext, hinside⟩)

/-- A keyword finds a row in which it stands with the sigmas that it has on its own. -/
theorem hasKeyword_of_keepsSigmas {row : R} {keyword text : String} {before after : List Char}
    (htext : text ∈ Record.searchTexts row)
    (hplace : text.toList = before ++ keyword.toList ++ after)
    (hkeeps : KeepsSigmas before keyword.toList after) : hasKeyword keyword row = true :=
  hasKeyword_of_part htext (hplace ▸ hkeeps.lower_part)

/-- Without an open sigma, a keyword finds every row in which it stands. -/
theorem hasKeyword_of_not_open {row : R} {keyword : String}
    (hopen : ¬ HasOpenSigma keyword.toList) (hstands : StandsIn keyword row) :
    hasKeyword keyword row = true := by
  obtain ⟨text, htext, hinside⟩ := hstands
  exact hasKeyword_of_part htext (lower_infix_of_not_open hopen hinside)

/-! ## Rows that are lost -/

/-- For every text, there is a row in which a keyword is looked for in this text only. -/
def HoldsAnyText (R : Type) [Record R] : Prop :=
  ∀ text : String, ∃ row : R, text ∈ Record.searchTexts row ∧
    ∀ t ∈ Record.searchTexts row, t = text

theorem HoldsAnyText.exists_lost (h : HoldsAnyText R) {keyword : String}
    (hopen : HasOpenSigma keyword.toList) :
    ∃ row : R, StandsIn keyword row ∧ ¬ hasKeyword keyword row = true := by
  obtain ⟨text, hinside, hlost⟩ := exists_lower_lost hopen
  obtain ⟨row, hmem, honly⟩ := h (String.ofList text)
  refine ⟨row, ⟨_, hmem, by rwa [String.toList_ofList]⟩, ?_⟩
  rw [hasKeyword_iff]
  rintro (rfl | ⟨t, ht, hfound⟩)
  · obtain ⟨u, w, hsigma, -⟩ := hopen
    simp at hsigma
  · rw [honly t ht, String.toList_ofList] at hfound
    exact hlost hfound

theorem holdsAnyText_apiKey : HoldsAnyText ApiKey := by
  intro text
  refine ⟨⟨text, "", text, none, [], newYear, none⟩, List.mem_cons_self, ?_⟩
  simp [Record.searchTexts]

theorem holdsAnyText_lnAddress : HoldsAnyText LnAddress := by
  intro text
  refine ⟨⟨text, text, text, none, true, false, newYear, none⟩, List.mem_cons_self, ?_⟩
  simp [Record.searchTexts]

theorem holdsAnyText_invoice : HoldsAnyText Invoice := by
  intro text
  refine ⟨⟨text, text, none, none, none, none, none, .pending, .lightning, none, none, none, none,
    newYear⟩, List.mem_cons_self, ?_⟩
  simp [Record.searchTexts]

theorem holdsAnyText_payment : HoldsAnyText Payment := by
  intro text
  refine ⟨⟨text, text, none, none, 0, none, .pending, .lightning, none, none, none, none,
    newYear⟩, List.mem_cons_self, ?_⟩
  simp [Record.searchTexts]

/-! ## The four lists -/

/-- When a keyword finds the rows of a list that it is copied from. -/
structure FindsCopies (R : Type) [Record R] (keyword : String) : Prop where
  /-- it finds a row in which it stands with the sigmas that it has on its own -/
  found : ∀ (row : R) (text : String) (before after : List Char),
    text ∈ Record.searchTexts row → text.toList = before ++ keyword.toList ++ after →
    KeepsSigmas before keyword.toList after → hasKeyword keyword row = true
  /-- it finds every row in which it stands exactly if none of its sigmas is open -/
  always_iff : (∀ row : R, StandsIn keyword row → hasKeyword keyword row = true) ↔
    ¬ HasOpenSigma keyword.toList

theorem HoldsAnyText.findsCopies (h : HoldsAnyText R) (keyword : String) :
    FindsCopies R keyword where
  found _ _ _ _ htext hplace hkeeps := hasKeyword_of_keepsSigmas htext hplace hkeeps
  always_iff := by
    constructor
    · intro hall hopen
      obtain ⟨row, hstands, hlost⟩ := h.exists_lost hopen
      exact hlost (hall row hstands)
    · intro hopen row hstands
      exact hasKeyword_of_not_open hopen hstands

/--
**In each of the four lists, a keyword copied from a row finds that row unless it was cut at a
sigma**, and the keywords that can be cut so are those with an open sigma.
-/
theorem keywords_find_copies (keyword : String) : FindsCopies ApiKey keyword ∧
    FindsCopies LnAddress keyword ∧ FindsCopies Invoice keyword ∧ FindsCopies Payment keyword :=
  ⟨holdsAnyText_apiKey.findsCopies keyword, holdsAnyText_lnAddress.findsCopies keyword,
    holdsAnyText_invoice.findsCopies keyword, holdsAnyText_payment.findsCopies keyword⟩

/-- The first half of the name stands in the row, and looking for it does not find the row. -/
theorem odysseus_lost_by_half :
    StandsIn "ΟΔΥΣ" (LnAddress.named "ΟΔΥΣΣΕΥΣ") ∧
      hasKeyword "ΟΔΥΣ" (LnAddress.named "ΟΔΥΣΣΕΥΣ") = false :=
  ⟨⟨"ΟΔΥΣΣΕΥΣ", List.mem_cons_self, [], "ΣΕΥΣ".toList, by cbv⟩, by decide +kernel⟩

end WalletConsole
