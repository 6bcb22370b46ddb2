import WalletConsole.Wallet.Permission
import WalletConsole.Wallet.Status

/-!
# API keys

A key that lets a program use the wallet. Whether it can still be used is not told by the backend:
a key expires at the instant it names.

* `ApiKey.statusAt_eq_expired_iff` — a key has expired from that instant on
-/

namespace WalletConsole

open Json Calendar

/-- A key to the wallet. -/
structure ApiKey where
  id : String
  userId : String
  name : String
  description : Option String
  permissions : List Permission
  createdAt : Instant
  expiresAt : Option Instant
  deriving DecidableEq, Repr

namespace ApiKey

/-- The fields of a key in the text; without permissions it has none. -/
def fields : Fields ApiKey :=
  mk <$> .required "id" text
    <*> .required "user_id" text
    <*> .required "name" text
    <*> .optional "description" text
    <*> .defaulted "permissions" [] (sequence Wire.decode)
    <*> .required "created_at" instant
    <*> .optional "expires_at" instant

/-- A key as JSON. -/
def toValue (k : ApiKey) : Value :=
  .object
    [("id", .text k.id),
     ("user_id", .text k.userId),
     ("name", .text k.name),
     ("description", nullableValue .text k.description),
     ("permissions", .list (k.permissions.map Wire.encode)),
     ("created_at", instantValue k.createdAt),
     ("expires_at", nullableValue instantValue k.expiresAt)]

instance : Wire ApiKey := ⟨fields.decode "ApiKey", toValue⟩

/-- Can the key be used at this instant? -/
def statusAt (k : ApiKey) (now : Instant) : ApiKeyStatus :=
  match k.expiresAt with
  | none => .active
  | some t => if t ≤ now then .expired else .active

theorem statusAt_eq_expired_iff {k : ApiKey} {now : Instant} :
    k.statusAt now = .expired ↔ ∃ t, k.expiresAt = some t ∧ t ≤ now := by
  unfold statusAt
  cases k.expiresAt with
  | none => simp
  | some t =>
    by_cases h : t ≤ now
    · simp [h]
    · simp [h]

end ApiKey

end WalletConsole
