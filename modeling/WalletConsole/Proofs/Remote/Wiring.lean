import Mathlib
import WalletConsole.Proofs.Remote.Boundary
import WalletConsole.Session.Served

/-!
# Every list calls for its own rows

A list is filled by one function of the server and deletes rows by two others. They are all about
the collection that the list shows. So whatever a list asks for ends as a call of the server's client
about this collection, and the list learns what came of it.

* `KeepsTo`, `lists_keep_to_collections` — which calls the functions of a list make
* `fetch_reaches_collection`, `delete_reaches_collection` — what the backend is asked, and what the
  list is told
* `ServerFunction.fromBrowser_not_configured` — without a client, nothing is asked
-/

namespace WalletConsole.Remote

/-! ## Which calls are made -/

/-- The functions of a list are about one collection. -/
structure KeepsTo (rows : Collection) : Prop where
  resource : Listed.resource rows.Row = rows.resource
  fetch : Served.fetch (R := rows.Row) = ServerFunction.making (.list rows)
  deleteOne : ∀ id, (Served.backend rows.Row).deleteOne id =
    (ServerFunction.making (.deleteOne rows id)).fromBrowser
  deleteMany : ∀ ids, (Served.backend rows.Row).deleteMany ids =
    (ServerFunction.making (.deleteMany rows ids)).fromBrowser

/-- **The functions of every list are about the collection that it shows.** -/
theorem lists_keep_to_collections (rows : Collection) : KeepsTo rows := by
  cases rows <;> exact ⟨rfl, rfl, fun _ => rfl, fun _ => rfl⟩

/-! ## What the backend is asked -/

/-- The client that makes the calls when a header came in. -/
def Client.forHeader (header : Option String) (c : Client) : Client :=
  c.usingToken (header.bind bearerToken?)

section Reached

variable (exchange : Exchange) (c : Client) (header : Option String) (rows : Collection)

theorem ServerFunction.fromBrowser_making (call : WalletCall) :
    (making call).fromBrowser exchange ⟨some c, header⟩ = (c.forHeader header).run exchange call :=
  show ServerState.runFromBrowser exchange ⟨some c, header⟩ call = _ from
    ServerState.runFromBrowser_of_client rfl exchange call

/-- **A list is filled with what the backend lists of its own collection.** -/
theorem fetch_reaches_collection :
    (Served.fetch (R := rows.Row)).fromBrowser exchange ⟨some c, header⟩ =
      (c.forHeader header).run exchange (.list rows) := by
  rw [(lists_keep_to_collections rows).fetch]
  exact ServerFunction.fromBrowser_making exchange c header (.list rows)

/-- **A list deletes rows of its own collection, in one call.** -/
theorem delete_reaches_collection (target : Target) :
    (Served.backend rows.Row).delete target exchange ⟨some c, header⟩ =
      (((c.forHeader header).run exchange (rows.deleteCall target)).1.map
          (rows.deletedRows target),
        ((c.forHeader header).run exchange (rows.deleteCall target)).2) := by
  have hkeeps := lists_keep_to_collections rows
  cases target with
  | one id =>
    simp only [RowBackend.delete, hkeeps.deleteOne]
    rw [ServerFunction.fromBrowser_making]
    rfl
  | many ids =>
    simp only [RowBackend.delete, hkeeps.deleteMany]
    rw [ServerFunction.fromBrowser_making]
    rfl

end Reached

/-- A server without a client says so, and asks nobody. -/
theorem ServerFunction.fromBrowser_not_configured (exchange : Exchange) (header : Option String)
    (call : WalletCall) :
    (making call).fromBrowser exchange ⟨none, header⟩ = (.error ServerState.notConfigured, []) := by
  show ((Except.error ServerState.notConfigured.toCallError).mapError FetchError.ofCallError, _) = _
  rw [Except.mapError, FetchError.ofCallError_toCallError]

end WalletConsole.Remote
