import Mathlib
import WalletConsole.Proofs.Remote.Wiring

/-!
# Tokens that come in

An `Authorization` header names a scheme, and behind the first space stands what the scheme asks
for. The server takes a token from a header of the scheme `Bearer`, in whatever case it is written,
and from no other. The token goes before the one that the server has of its own.

* `CarriesToken`, `bearerToken?_eq_some_iff` — the token of every header
* `bearerToken?_of_other_scheme`, `bearerToken?_of_no_space` — headers that have none
* `bearerToken?_of_bearerHeader` — the header that a client sends is read back
* `Client.forHeader_of_carriesToken`, `Client.forHeader_of_no_token` — the client of a call
-/

namespace WalletConsole.Remote

/-- Stands in front of a token. -/
def isTokenBlank (c : Char) : Bool := c == ' ' || c == '\t'

/-- Can stand in a header with a token. -/
def isTokenChar (c : Char) : Bool := isHeaderChar c && c.toNat < 0x7F

/-- The header says `Bearer`, in any case, and carries the token behind a space or more. -/
structure CarriesToken (header token : String) : Prop where
  parts : ∃ scheme blanks : List Char, header.toList = scheme ++ ' ' :: (blanks ++ token.toList) ∧
    scheme.map Char.toLower = "bearer".toList ∧ ∀ c ∈ blanks, isTokenBlank c = true
  head : ∀ c ∈ token.toList.head?, isTokenBlank c = false
  chars : ∀ c ∈ header.toList, isTokenChar c = true

variable {header token : String} {scheme rest : List Char}

theorem space_notMem_of_bearer (h : scheme.map Char.toLower = "bearer".toList) : ' ' ∉ scheme := by
  intro hmem
  have hlower : Char.toLower ' ' ∈ "bearer".toList := h ▸ List.mem_map_of_mem hmem
  exact absurd hlower (by decide)

/-- There is only one first space. -/
theorem eq_of_append_space {scheme' rest' : List Char} (h : ' ' ∉ scheme) (h' : ' ' ∉ scheme')
    (heq : scheme ++ ' ' :: rest = scheme' ++ ' ' :: rest') : scheme = scheme' := by
  have htake : ∀ {s t : List Char}, ' ' ∉ s → (s ++ ' ' :: t).takeWhile (· ≠ ' ') = s := by
    intro s t hs
    rw [List.takeWhile_append_of_pos fun c hc => by simpa using ne_of_mem_of_not_mem hc hs]
    simp
  rw [← htake h, heq, htake h']

theorem bearerToken?_eq (header : String) : bearerToken? header =
    if (header.toList.take 6).map Char.toLower = "bearer".toList ∧
        (header.toList.drop 6).head? = some ' ' ∧ header.toList.all isTokenChar = true then
      some (String.ofList ((header.toList.drop 7).dropWhile isTokenBlank))
    else none := by
  simp only [bearerToken?, Bool.and_eq_true, decide_eq_true_eq, and_assoc]
  rfl

/-- The token is what stands behind the word and the blanks that follow it. -/
theorem bearerToken?_eq_some_iff_word :
    bearerToken? header = some token ↔
      ∃ scheme rest : List Char, header.toList = scheme ++ ' ' :: rest ∧
        scheme.map Char.toLower = "bearer".toList ∧ (∀ c ∈ header.toList, isTokenChar c = true) ∧
        rest.dropWhile isTokenBlank = token.toList := by
  rw [bearerToken?_eq, Option.ite_none_right_eq_some, Option.some.injEq, List.all_eq_true]
  constructor
  · rintro ⟨⟨hscheme, hspace, hchars⟩, rfl⟩
    obtain ⟨rest, hrest⟩ := List.head?_eq_some_iff.mp hspace
    have hbehind : header.toList.drop 7 = rest :=
      List.drop_add_one_eq_tail_drop.trans (congrArg List.tail hrest)
    refine ⟨header.toList.take 6, rest, ?_, hscheme, hchars, ?_⟩
    · rw [← hrest, List.take_append_drop]
    · rw [hbehind, String.toList_ofList]
  · rintro ⟨scheme, rest, hheader, hscheme, hchars, htoken⟩
    have hlength : scheme.length = 6 := by
      rw [← List.length_map Char.toLower, hscheme]
      rfl
    have htake : header.toList.take 6 = scheme := by
      rw [hheader, ← hlength, List.take_left]
    have hdrop : header.toList.drop 6 = ' ' :: rest := by
      rw [hheader, ← hlength, List.drop_left]
    have hbehind : header.toList.drop 7 = rest :=
      List.drop_add_one_eq_tail_drop.trans (congrArg List.tail hdrop)
    refine ⟨⟨htake ▸ hscheme, hdrop ▸ rfl, hchars⟩, ?_⟩
    rw [hbehind, htoken, String.ofList_toList]

/-! ## The token of a header -/

/-- What is left when everything of a kind is dropped in front does not start with that kind. -/
theorem dropWhile_eq_iff {p : Char → Bool} {s t : List Char} :
    s.dropWhile p = t ↔
      ∃ front, s = front ++ t ∧ (∀ c ∈ front, p c = true) ∧ ∀ c ∈ t.head?, p c = false := by
  constructor
  · rintro rfl
    refine ⟨s.takeWhile p, List.takeWhile_append_dropWhile.symm, ?_, ?_⟩
    · exact fun c hc => List.mem_takeWhile_imp hc
    · intro c hc
      have hnot := List.head?_dropWhile_not p s
      rw [Option.mem_def.mp hc] at hnot
      exact hnot
  · rintro ⟨front, rfl, hfront, hhead⟩
    rw [List.dropWhile_append_of_pos hfront]
    cases t with
    | nil => rfl
    | cons c t => exact List.dropWhile_cons_of_neg (by simp [hhead c rfl])

/-- **A header carries a token exactly if it says `Bearer` and then, behind spaces, the token.** -/
theorem bearerToken?_eq_some_iff :
    bearerToken? header = some token ↔ CarriesToken header token := by
  rw [bearerToken?_eq_some_iff_word]
  constructor
  · rintro ⟨scheme, rest, hheader, hscheme, hchars, htoken⟩
    obtain ⟨blanks, rfl, hblanks, hhead⟩ := dropWhile_eq_iff.mp htoken
    exact ⟨⟨scheme, blanks, hheader, hscheme, hblanks⟩, hhead, hchars⟩
  · rintro ⟨⟨scheme, blanks, hheader, hscheme, hblanks⟩, hhead, hchars⟩
    exact ⟨scheme, _, hheader, hscheme, hchars, dropWhile_eq_iff.mpr ⟨blanks, rfl, hblanks, hhead⟩⟩

/-- **A header of another scheme has no token.** -/
theorem bearerToken?_of_other_scheme (hheader : header.toList = scheme ++ ' ' :: rest)
    (hspace : ' ' ∉ scheme) (hother : scheme.map Char.toLower ≠ "bearer".toList) :
    bearerToken? header = none := by
  rw [Option.eq_none_iff_forall_ne_some]
  intro token htoken
  obtain ⟨word, _, hparts, hword, -⟩ := bearerToken?_eq_some_iff_word.mp htoken
  have heq : scheme = word :=
    eq_of_append_space hspace (space_notMem_of_bearer hword) (hheader.symm.trans hparts)
  exact hother (heq ▸ hword)

/-- A header that is a single word has no token, whatever the word. -/
theorem bearerToken?_of_no_space (hspace : ' ' ∉ header.toList) : bearerToken? header = none := by
  rw [Option.eq_none_iff_forall_ne_some]
  intro token htoken
  obtain ⟨word, rest, hparts, -⟩ := bearerToken?_eq_some_iff_word.mp htoken
  exact hspace (hparts ▸ List.mem_append_right _ List.mem_cons_self)

/-- The header that a client writes for a token is read back, if the token is plain text that does
not start with a blank. -/
theorem bearerToken?_of_bearerHeader (hchars : ∀ c ∈ token.toList, isTokenChar c = true)
    (hhead : ∀ c ∈ token.toList.head?, isTokenBlank c = false)
    (hheader : bearerHeader? token = some header) : bearerToken? header = some token := by
  obtain rfl : "Bearer " ++ token = header := by
    unfold bearerHeader? at hheader
    split at hheader
    · exact Option.some.inj hheader
    · cases hheader
  have hlist : ("Bearer " ++ token).toList = "Bearer".toList ++ ' ' :: token.toList := by
    rw [String.toList_append]
    rfl
  refine bearerToken?_eq_some_iff.mpr ⟨⟨"Bearer".toList, [], hlist, by decide, by simp⟩, hhead, ?_⟩
  rw [hlist]
  have hword : ∀ c ∈ "Bearer".toList, isTokenChar c = true := List.all_eq_true.mp (by decide)
  exact List.forall_mem_append.mpr ⟨hword, List.forall_mem_cons.mpr ⟨by decide, hchars⟩⟩

/-! ## The client of a call -/

variable (c : Client)

/-- A token that came in goes before the one of the server. -/
theorem Client.forHeader_of_carriesToken (h : CarriesToken header token) :
    c.forHeader (some header) = { c with token := some token } := by
  rw [forHeader, Option.bind_some, bearerToken?_eq_some_iff.mpr h]
  rfl

/-- Without a token, or with a header of another scheme, the server's own client makes the call. -/
theorem Client.forHeader_of_no_token {incoming : Option String}
    (h : incoming.bind bearerToken? = none) : c.forHeader incoming = c := by
  rw [forHeader, h]
  rfl

end WalletConsole.Remote
