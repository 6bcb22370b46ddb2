import WalletConsole.Json.Wire

/-!
# Failures of the backend

Everything that can go wrong with a call to the wallet backend, as it is shown to the user: no
answer came, the answer was a refusal, or it could not be read.

* `FetchError.reason` — the words shown to the user
-/

namespace WalletConsole

open Json

/-- Why a call to the backend failed. -/
inductive FetchError where
  /-- no answer came -/
  | unreachable (message : String)
  /-- the backend refused, with a status and its reason -/
  | refused (status : UInt16) (reason : String)
  /-- the answer could not be read -/
  | unreadable (message : String)
  deriving DecidableEq, Repr

namespace FetchError

/-- The words shown to the user: a refusal in the words of the backend. -/
def reason : FetchError → String
  | .unreachable message => "network error: " ++ message
  | .refused _ reason => reason
  | .unreadable message => "unexpected response: " ++ message

/-- Did no answer come? -/
def isUnreachable : FetchError → Bool
  | .unreachable _ => true
  | _ => false

/-- The kinds of failure in the text. -/
def variants : List (Variant FetchError) :=
  [⟨"transport", "Transport", unreachable <$> .required "message" text⟩,
   ⟨"api", "Api", refused <$> .required "status" word16 <*> .required "reason" text⟩,
   ⟨"decode", "Decode", unreadable <$> .required "message" text⟩]

/-- A failure as JSON. -/
def toValue : FetchError → Value
  | .unreachable message => .object [("kind", .text "transport"), ("message", .text message)]
  | .refused status reason =>
    .object [("kind", .text "api"), ("status", .natural status.toUInt64), ("reason", .text reason)]
  | .unreadable message => .object [("kind", .text "decode"), ("message", .text message)]

instance : Wire FetchError := ⟨tagged "DashboardError" "kind" variants, toValue⟩

end FetchError

end WalletConsole
