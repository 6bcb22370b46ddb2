import WalletConsole.Remote.Client

/-!
# What is sent for a call

* `Client.run_requests` — a call is one request at most
* `Client.request?_eq_some_iff` — what that request is
-/

namespace WalletConsole.Remote.Client

variable {c : Client} {call : WalletCall}

/-- A call is one request, or none if it cannot be written. -/
theorem run_requests (exchange : Exchange) (c : Client) (call : WalletCall) :
    (c.run exchange call).2 = (c.request? call).toList := by
  unfold run
  cases c.request? call with
  | none => rfl
  | some request => cases hx : exchange request <;> simp [hx]

/-- A token is sent if it can be written in a header. -/
theorem authorization?_eq_some_iff {header : Option String} :
    c.authorization? = some header ↔
      (∀ token ∈ c.token, token.toList.all isHeaderChar = true) ∧
        header = c.token.map ("Bearer " ++ ·) := by
  unfold authorization?
  cases c.token with
  | none =>
    constructor
    · intro h
      cases h
      exact ⟨fun _ ht => (Option.not_mem_none _ ht).elim, rfl⟩
    · rintro ⟨-, rfl⟩
      rfl
  | some token =>
    by_cases htoken : token.toList.all isHeaderChar = true
    · simp only [bearerHeader?, htoken, if_true, Option.map_some, Option.some.injEq]
      constructor
      · rintro rfl
        exact ⟨fun t ht => by cases ht; exact htoken, rfl⟩
      · rintro ⟨-, rfl⟩
        rfl
    · simp only [bearerHeader?, htoken]
      constructor
      · intro h
        cases h
      · rintro ⟨hall, -⟩
        exact absurd (hall token rfl) htoken

/-- The request of a call: where it goes, and with which token. -/
theorem request?_eq_some_iff {r : Request} :
    c.request? call = some r ↔
      ∃ url, Url.parse? (c.baseUrl ++ call.path).toList = some url ∧
        (∀ token ∈ c.token, token.toList.all isHeaderChar = true) ∧
        r = ⟨call.method, call.query?.elim url url.addQuery, c.token.map ("Bearer " ++ ·)⟩ := by
  unfold request?
  simp only [bind, Option.bind_eq_some_iff, authorization?_eq_some_iff, pure, Option.some.injEq]
  constructor
  · rintro ⟨url, hurl, _, ⟨htoken, rfl⟩, rfl⟩
    exact ⟨url, hurl, htoken, rfl⟩
  · rintro ⟨url, hurl, htoken, rfl⟩
    exact ⟨url, hurl, _, ⟨htoken, rfl⟩, rfl⟩

end WalletConsole.Remote.Client
