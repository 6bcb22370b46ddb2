import Mathlib
import WalletConsole.Server.Config

/-!
# Which configurations are accepted

Each variable is valid or at fault by itself, whatever the others are: the configuration is accepted
exactly when all of them are valid, and an error is about one that is not. Which of several faults is
told depends on the order in which the variables are looked at.

* `Says`, `Faulty` — what a variable says, or what is wrong with it
* `IsNumeral` — the texts that say a number of 64 bits
* `readRequired_tells`, `readOptional_tells`, `readTimeout_tells` — the variables by themselves
* `Config.DescribedBy`, `FirstFault` — what the variables come to, one after the other
* `ofEnvironment_tells` — **what is accepted is what they say, and each error is true**
* `configured_iff_all_valid` — **the configuration is accepted if every variable is valid by
  itself, and else one is named that is at fault**
-/

namespace WalletConsole.Server

open Text

/-! ## Variables that are set -/

/-- A variable says a text: it is set to it, but for blanks at both ends, and it is not blank. -/
def Says (env : Environment) (name value : String) : Prop :=
  ∃ s, env name = some (Piece.ofString s) ∧ trimmed s = value ∧ value ≠ ""

/-- A variable that need not be set says nothing or a text. -/
def SaysOptionally (env : Environment) (name : String) : Option String → Prop
  | none => env name = none
  | some value => Says env name value

/-- What is wrong with a variable that has to say something. -/
inductive Faulty (env : Environment) (name : String) : StartError → Prop where
  | missing (hunset : env name = none) : Faulty env name (.missing name)
  | notUnicode {s : List Piece} {n : Nat} (hset : env name = some s) (hbad : .bad n ∈ s) :
    Faulty env name (.notUnicode name)
  | empty {s : String} (hset : env name = some (Piece.ofString s))
    (hblank : IsBlank s) :
    Faulty env name (.empty name)

theorem textOf?_ofString (s : String) : textOf? (Piece.ofString s) = some s.toList := by
  unfold textOf? Piece.ofString
  induction s.toList with
  | nil => rfl
  | cons c cs ih => simp [List.mapM_cons, ih, Piece.char?]

theorem textOf?_eq_none_of_bad {s : List Piece} {n : Nat} (h : .bad n ∈ s) : textOf? s = none := by
  induction s with
  | nil => cases h
  | cons p s ih =>
    unfold textOf? at ih ⊢
    rcases List.mem_cons.mp h with rfl | hmem
    · simp [List.mapM_cons, Piece.char?]
    · simp [List.mapM_cons, ih hmem]

/-- Some pieces are a text, or bytes among them belong to no character. -/
theorem ofString_or_bad (s : List Piece) : (∃ t, s = Piece.ofString t) ∨ ∃ n, .bad n ∈ s := by
  induction s with
  | nil => exact .inl ⟨"", rfl⟩
  | cons p s ih =>
    cases p with
    | bad n => exact .inr ⟨n, List.mem_cons_self⟩
    | char c =>
      rcases ih with ⟨t, rfl⟩ | ⟨n, hn⟩
      · exact .inl ⟨String.ofList (c :: t.toList), by simp [Piece.ofString]⟩
      · exact .inr ⟨n, List.mem_cons_of_mem _ hn⟩

/-! ## A variable by itself -/

/-- What reading comes to: a value that the variables say, or an error that is true of them. -/
structure Tells {α : Type} (r : Except StartError α) (valid : α → Prop)
    (faulty : StartError → Prop) : Prop where
  ok_iff : ∀ x, r = .ok x ↔ valid x
  error_iff : ∀ e, r = .error e ↔ faulty e

section

variable {α : Type} {r : Except StartError α} {valid : α → Prop} {faulty : StartError → Prop}

/-- It is enough to know what follows from each of the two, if one of them is always there. -/
theorem Tells.of_cases (hok : ∀ x, valid x → r = .ok x) (herror : ∀ e, faulty e → r = .error e)
    (hcases : (∃ x, valid x) ∨ ∃ e, faulty e) : Tells r valid faulty where
  ok_iff x := by
    refine ⟨fun h => ?_, hok x⟩
    rcases hcases with ⟨y, hy⟩ | ⟨e, he⟩
    · cases (hok y hy).symm.trans h
      exact hy
    · cases (herror e he).symm.trans h
  error_iff e := by
    refine ⟨fun h => ?_, herror e⟩
    rcases hcases with ⟨y, hy⟩ | ⟨e', he⟩
    · cases (hok y hy).symm.trans h
    · cases (herror e' he).symm.trans h
      exact he

theorem Tells.valid_or_faulty (h : Tells r valid faulty) : (∃ x, valid x) ∨ ∃ e, faulty e := by
  cases hr : r with
  | ok x => exact .inl ⟨x, (h.ok_iff x).mp hr⟩
  | error e => exact .inr ⟨e, (h.error_iff e).mp hr⟩

end

section

variable {env : Environment} {name : String}

theorem readRequired_ofString {s : String} (hset : env name = some (Piece.ofString s)) :
    readRequired env name = if trimmed s = "" then .error (.empty name) else .ok (trimmed s) := by
  have hempty : (trim s.toList).isEmpty = true ↔ trimmed s = "" := by
    rw [List.isEmpty_iff, trim_eq_nil_iff, trimmed_eq_empty_iff, IsBlank]
  unfold readRequired
  simp only [hset, textOf?_ofString, hempty]
  rfl

theorem readRequired_tells (env : Environment) (name : String) :
    Tells (readRequired env name) (Says env name) (Faulty env name) := by
  refine .of_cases ?_ ?_ ?_
  · rintro _ ⟨s, hset, rfl, hne⟩
    rw [readRequired_ofString hset, if_neg hne]
  · intro e h
    cases h with
    | missing hunset => simp only [readRequired, hunset]
    | notUnicode hset hbad => simp only [readRequired, hset, textOf?_eq_none_of_bad hbad]
    | empty hset hblank =>
      rw [readRequired_ofString hset, if_pos (trimmed_eq_empty_iff.mpr hblank)]
  · cases hset : env name with
    | none => exact .inr ⟨_, .missing hset⟩
    | some s =>
      rcases ofString_or_bad s with ⟨t, rfl⟩ | ⟨n, hbad⟩
      · by_cases hblank : trimmed t = ""
        · exact .inr ⟨_, .empty hset (trimmed_eq_empty_iff.mp hblank)⟩
        · exact .inl ⟨_, t, hset, rfl, hblank⟩
      · exact .inr ⟨_, .notUnicode hset hbad⟩

/-- A variable that is not set says nothing. -/
theorem Says.isSome {value : String} (h : Says env name value) : (env name).isSome = true := by
  obtain ⟨s, hset, -⟩ := h
  rw [hset]
  rfl

theorem readOptional_of_unset (h : env name = none) : readOptional env name = .ok none := by
  simp only [readOptional, h]
  rfl

theorem readOptional_of_set (h : (env name).isSome = true) :
    readOptional env name = (readRequired env name).map some := by
  unfold readOptional
  rw [if_neg (by simpa [Option.isSome_iff_ne_none] using h)]

theorem readOptional_tells (env : Environment) (name : String) : Tells (readOptional env name)
    (SaysOptionally env name) fun e => (env name).isSome = true ∧ Faulty env name e := by
  have hread := readRequired_tells env name
  refine .of_cases ?_ ?_ ?_
  · intro value? h
    cases value? with
    | none => exact readOptional_of_unset h
    | some value =>
      rw [readOptional_of_set (Says.isSome h), (hread.ok_iff value).mpr h]
      rfl
  · rintro e ⟨hset, h⟩
    rw [readOptional_of_set hset, (hread.error_iff e).mpr h]
    rfl
  · cases hset : env name with
    | none => exact .inl ⟨none, hset⟩
    | some s =>
      rcases hread.valid_or_faulty with ⟨value, htext⟩ | ⟨e, hfaulty⟩
      · exact .inl ⟨some value, htext⟩
      · exact .inr ⟨e, rfl, hfaulty⟩

end

/-! ## Numbers -/

/-- A text is a number of 64 bits: decimal digits, perhaps with a plus sign in front. -/
def IsNumeral (s : String) (n : UInt64) : Prop :=
  ∃ digits, digits ≠ [] ∧ (∀ c ∈ digits, c.isDigit = true) ∧
    Nat.ofDigitChars 10 digits 0 = n.toNat ∧
    (s.toList = digits ∨ s.toList = '+' :: digits)

/-- Digits are read as their number, unless it is too great. -/
theorem some_of_digits_iff {digits : List Char} {n : UInt64} :
    (if !digits.isEmpty && digits.all Char.isDigit then
      if Nat.ofDigitChars 10 digits 0 < UInt64.size then
        some (Nat.ofDigitChars 10 digits 0).toUInt64 else none
      else none) = some n ↔
      digits ≠ [] ∧ (∀ c ∈ digits, c.isDigit = true) ∧ Nat.ofDigitChars 10 digits 0 = n.toNat := by
  have hdigits : (!digits.isEmpty && digits.all Char.isDigit) = true ↔
      digits ≠ [] ∧ ∀ c ∈ digits, c.isDigit = true := by
    simp
  rw [← and_assoc, ← hdigits]
  by_cases hread : (!digits.isEmpty && digits.all Char.isDigit) = true
  · by_cases hfits : Nat.ofDigitChars 10 digits 0 < UInt64.size
    · have hnumber : (Nat.ofDigitChars 10 digits 0).toUInt64.toNat = Nat.ofDigitChars 10 digits 0 :=
        UInt64.toNat_ofNat_of_lt' hfits
      simp only [hread, if_true, hfits, Option.some.injEq, true_and]
      rw [← UInt64.toNat_inj, hnumber]
    · have hne : Nat.ofDigitChars 10 digits 0 ≠ n.toNat := fun h => hfits (h ▸ n.toNat_lt)
      simp [hread, hfits, hne]
  · simp [hread]

/-- A plus sign in front is taken off, and what is left has to be digits. -/
theorem word64?_cases (s : String) : ∃ digits : List Char,
    (s.toList = '+' :: digits ∨ s.toList = digits ∧ ∀ rest, digits ≠ '+' :: rest) ∧
      ∀ n, word64? s = some n ↔ digits ≠ [] ∧ (∀ c ∈ digits, c.isDigit = true) ∧
        Nat.ofDigitChars 10 digits 0 = n.toNat := by
  unfold word64?
  split
  · next rest hs => exact ⟨rest, .inl hs, fun _ => some_of_digits_iff⟩
  · next cs hs => exact ⟨_, .inr ⟨rfl, hs⟩, fun _ => some_of_digits_iff⟩

theorem word64?_eq_some_iff {s : String} {n : UInt64} : word64? s = some n ↔ IsNumeral s n := by
  obtain ⟨digits, hs, hread⟩ := word64?_cases s
  rw [hread]
  constructor
  · rintro ⟨hne, hdigits, hnumber⟩
    exact ⟨digits, hne, hdigits, hnumber, hs.symm.imp_left And.left⟩
  · rintro ⟨digits', hne, hdigits, hnumber, hs'⟩
    have hplus : '+' ∉ digits' := fun hmem => absurd (hdigits '+' hmem) (by decide)
    -- the sign is no digit, so there is one way to take it off
    have hsame : digits' = digits := by
      rcases hs with hs | ⟨hs, hnoPlus⟩ <;> rcases hs' with hs' | hs' <;> rw [hs] at hs'
      · exact absurd (hs' ▸ List.mem_cons_self) hplus
      · exact (List.cons.inj hs').2.symm
      · exact hs'.symm
      · exact absurd hs' (hnoPlus _)
    exact hsame ▸ ⟨hne, hdigits, hnumber⟩

/-! ## The timeout -/

/-- The timeout is not set, or a number. -/
def TimeoutSays (env : Environment) : Option UInt64 → Prop
  | none => env timeoutVariable = none
  | some n => ∃ s, Says env timeoutVariable s ∧ IsNumeral s n

/-- What is wrong with the timeout: the variable, or what it says. -/
inductive TimeoutFaulty (env : Environment) : StartError → Prop where
  | unread {e : StartError} (hset : (env timeoutVariable).isSome = true)
    (hfaulty : Faulty env timeoutVariable e) : TimeoutFaulty env e
  | invalidValue {s : String} (htext : Says env timeoutVariable s) (hno : ∀ n, ¬ IsNumeral s n) :
    TimeoutFaulty env (.invalidValue timeoutVariable s)

theorem readTimeout_tells (env : Environment) :
    Tells (readTimeout env) (TimeoutSays env) (TimeoutFaulty env) := by
  have hread := readOptional_tells env timeoutVariable
  refine .of_cases ?_ ?_ ?_
  · intro t h
    cases t with
    | none =>
      rw [readTimeout, (hread.ok_iff none).mpr h]
      rfl
    | some n =>
      obtain ⟨s, htext, hn⟩ := h
      rw [readTimeout, (hread.ok_iff (some s)).mpr htext]
      simp only [bind, Except.bind, word64?_eq_some_iff.mpr hn]
      rfl
  · intro e h
    cases h with
    | unread hset hfaulty =>
      rw [readTimeout, (hread.error_iff e).mpr ⟨hset, hfaulty⟩]
      rfl
    | @invalidValue s htext hno =>
      have hnone : word64? s = none :=
        Option.eq_none_iff_forall_ne_some.mpr fun n hn => hno n (word64?_eq_some_iff.mp hn)
      rw [readTimeout, (hread.ok_iff (some s)).mpr htext]
      simp only [bind, Except.bind, hnone]
  · rcases hread.valid_or_faulty with ⟨value?, htext⟩ | ⟨e, hset, hfaulty⟩
    · cases value? with
      | none => exact .inl ⟨none, htext⟩
      | some s =>
        by_cases hn : ∃ n, IsNumeral s n
        · obtain ⟨n, hn⟩ := hn
          exact .inl ⟨some n, s, htext, hn⟩
        · exact .inr ⟨_, .invalidValue htext (not_exists.mp hn)⟩
    · exact .inr ⟨e, .unread hset hfaulty⟩

/-! ## The configuration -/

/-- A configuration is what the variables say; without a timeout, it is half a minute. -/
structure Config.DescribedBy (c : Config) (env : Environment) : Prop where
  url : Says env urlVariable c.url
  token : SaysOptionally env tokenVariable c.token
  timeout : ∃ t, TimeoutSays env t ∧ c.timeoutSeconds = t.getD 30

/-- What is wrong with the first variable that is at fault, in the order in which they are read. -/
inductive FirstFault (env : Environment) : StartError → Prop where
  | timeout {e : StartError} (hfaulty : TimeoutFaulty env e) : FirstFault env e
  | url {e : StartError} (htimeout : ∃ t, TimeoutSays env t) (hfaulty : Faulty env urlVariable e) :
    FirstFault env e
  | token {e : StartError} (htimeout : ∃ t, TimeoutSays env t)
    (hurl : ∃ value, Says env urlVariable value) (hset : (env tokenVariable).isSome = true)
    (hfaulty : Faulty env tokenVariable e) : FirstFault env e

/-- **The variables are read one after the other, up to the first that is at fault.** -/
theorem ofEnvironment_tells (env : Environment) :
    Tells (Config.ofEnvironment env) (Config.DescribedBy · env) (FirstFault env) := by
  have htimeout := readTimeout_tells env
  have hurl := readRequired_tells env urlVariable
  have htoken := readOptional_tells env tokenVariable
  refine .of_cases ?_ ?_ ?_
  · rintro ⟨url, token, _⟩ ⟨hu, hk, t, ht, rfl⟩
    unfold Config.ofEnvironment
    rw [(htimeout.ok_iff t).mpr ht, (hurl.ok_iff url).mpr hu, (htoken.ok_iff token).mpr hk]
    cases t <;> rfl
  · intro e h
    unfold Config.ofEnvironment
    cases h with
    | timeout hfaulty =>
      rw [(htimeout.error_iff e).mpr hfaulty]
      rfl
    | url ht hfaulty =>
      obtain ⟨t, ht⟩ := ht
      rw [(htimeout.ok_iff t).mpr ht, (hurl.error_iff e).mpr hfaulty]
      rfl
    | token ht hu hset hfaulty =>
      obtain ⟨t, ht⟩ := ht
      obtain ⟨value, hu⟩ := hu
      rw [(htimeout.ok_iff t).mpr ht, (hurl.ok_iff value).mpr hu,
        (htoken.error_iff e).mpr ⟨hset, hfaulty⟩]
      rfl
  · rcases htimeout.valid_or_faulty with ⟨t, ht⟩ | ⟨e, he⟩
    · rcases hurl.valid_or_faulty with ⟨url, hu⟩ | ⟨e, he⟩
      · rcases htoken.valid_or_faulty with ⟨token, hk⟩ | ⟨e, hset, he⟩
        · exact .inl ⟨⟨url, token, t.getD 30⟩, hu, hk, t, ht, rfl⟩
        · exact .inr ⟨e, .token ⟨t, ht⟩ ⟨url, hu⟩ hset he⟩
      · exact .inr ⟨e, .url ⟨t, ht⟩ he⟩
    · exact .inr ⟨e, .timeout he⟩

/-- The variable that an error names. -/
def StartError.variable? : StartError → Option String
  | .missing name | .empty name | .notUnicode name | .invalidValue name _ => some name
  | .server _ | .inputOutput _ => none

theorem Faulty.variable?_eq {env : Environment} {name : String} {e : StartError}
    (h : Faulty env name e) : e.variable? = some name := by
  cases h <;> rfl

/-- A variable that is not set is at fault only if it has to be set. -/
theorem FirstFault.exists_variable {env : Environment} {e : StartError} (h : FirstFault env e) :
    ∃ name ∈ variableNames, e.variable? = some name ∧
      (env name = none → e = .missing urlVariable) := by
  have hunset : ∀ {name : String}, (env name).isSome = true → env name = none →
      e = .missing urlVariable := by
    intro name hset hnone
    rw [hnone] at hset
    cases hset
  cases h with
  | timeout hfaulty =>
    refine ⟨timeoutVariable, by decide, ?_⟩
    cases hfaulty with
    | unread hset hfaulty => exact ⟨hfaulty.variable?_eq, hunset hset⟩
    | invalidValue htext _ => exact ⟨rfl, hunset htext.isSome⟩
  | url _ hfaulty =>
    refine ⟨urlVariable, by decide, hfaulty.variable?_eq, fun hnone => ?_⟩
    cases hfaulty with
    | missing _ => rfl
    | notUnicode hset _ => exact hunset (by rw [hset]; rfl) hnone
    | empty hset _ => exact hunset (by rw [hset]; rfl) hnone
  | token _ _ hset hfaulty =>
    exact ⟨tokenVariable, by decide, hfaulty.variable?_eq, hunset hset⟩

/-- Every variable is valid by itself. -/
structure AllValid (env : Environment) : Prop where
  url : ∃ value, Says env urlVariable value
  token : env tokenVariable = none ∨ ∃ value, Says env tokenVariable value
  timeout : env timeoutVariable = none ∨ ∃ s n, Says env timeoutVariable s ∧ IsNumeral s n

theorem exists_describedBy_iff {env : Environment} :
    (∃ c : Config, c.DescribedBy env) ↔ AllValid env := by
  constructor
  · rintro ⟨c, hurl, htoken, t, ht, -⟩
    refine ⟨⟨c.url, hurl⟩, ?_, ?_⟩
    · cases hc : c.token with
      | none => exact .inl (by rwa [hc] at htoken)
      | some value => exact .inr ⟨value, by rwa [hc] at htoken⟩
    · cases t with
      | none => exact .inl ht
      | some n =>
        obtain ⟨s, htext, hn⟩ := ht
        exact .inr ⟨s, n, htext, hn⟩
  · rintro ⟨⟨url, hurl⟩, htoken, htimeout⟩
    obtain ⟨t, ht⟩ : ∃ t, TimeoutSays env t := by
      rcases htimeout with hnone | ⟨s, n, htext, hn⟩
      · exact ⟨none, hnone⟩
      · exact ⟨some n, s, htext, hn⟩
    obtain ⟨token, hk⟩ : ∃ token, SaysOptionally env tokenVariable token := by
      rcases htoken with hnone | ⟨value, hvalue⟩
      · exact ⟨none, hnone⟩
      · exact ⟨some value, hvalue⟩
    exact ⟨⟨url, token, t.getD 30⟩, hurl, hk, t, ht, rfl⟩

/--
**The configuration is accepted if every variable is valid by itself, and else one is named that is
at fault.** What is accepted is what the variables say. An error is about the first variable that is
at fault, and says of it what is true; only the address has to be set.
-/
theorem configured_iff_all_valid (env : Environment) :
    ((∃ c, Config.ofEnvironment env = .ok c) ↔ AllValid env) ∧
      (∀ c, Config.ofEnvironment env = .ok c ↔ c.DescribedBy env) ∧
      (∀ e, Config.ofEnvironment env = .error e ↔ FirstFault env e) ∧
      ∀ e, Config.ofEnvironment env = .error e → ∃ name ∈ variableNames,
        e.variable? = some name ∧ (env name = none → e = .missing urlVariable) := by
  have hread := ofEnvironment_tells env
  refine ⟨?_, hread.ok_iff, hread.error_iff, fun e he => ?_⟩
  · rw [← exists_describedBy_iff]
    exact exists_congr hread.ok_iff
  · exact ((hread.error_iff e).mp he).exists_variable

example : Config.ofEnvironment (fun name =>
    if name = urlVariable then some (Piece.ofString " http://localhost:8080\n")
    else if name = timeoutVariable then some (Piece.ofString "+005") else none) =
      .ok ⟨"http://localhost:8080", none, 5⟩ := by
  rfl

end WalletConsole.Server
