import WalletConsole.Text.Blank
import WalletConsole.Text.Utf8
import WalletConsole.Remote.Client

/-!
# Configuration

The server is configured by three variables of its environment: the address of the backend, which
must be set, a token, and a timeout in seconds. Blanks around a value do not count; a variable that
is set has to say something.

* `Config.ofEnvironment` — the configuration, or the first variable that is at fault
* `Config.client` — the client that it describes
-/

namespace WalletConsole.Server

open Text Remote

/-! ## Errors -/

/-- Why the server cannot start. -/
inductive StartError where
  | missing (name : String)
  | empty (name : String)
  | notUnicode (name : String)
  | invalidValue (name value : String)
  | server (message : String)
  | inputOutput (message : String)
  deriving DecidableEq, Repr

/-- The wording of an error. -/
def StartError.message : StartError → String
  | .missing name => "Missing required configuration: " ++ name
  | .empty name => "Environment variable " ++ name ++ " is set but empty"
  | .notUnicode name => "Environment variable " ++ name ++ " contains invalid Unicode"
  | .invalidValue name value =>
    "Environment variable " ++ name ++ " has an invalid value: " ++ value
  | .server message => "Server error: " ++ message
  | .inputOutput message => "IO error: " ++ message

/-! ## Variables -/

/-- The environment: the value of each variable that is set, which need not be text. -/
abbrev Environment := String → Option (List Piece)

/-- The text of some pieces, if all of them are characters. -/
def textOf? (s : List Piece) : Option (List Char) :=
  s.mapM Piece.char?

/-- A variable that must be set. -/
def readRequired (env : Environment) (name : String) : Except StartError String :=
  match env name with
  | none => .error (.missing name)
  | some s =>
    match textOf? s with
    | none => .error (.notUnicode name)
    | some cs =>
      if (trim cs).isEmpty then .error (.empty name) else .ok (String.ofList (trim cs))

/-- A variable that need not be set. -/
def readOptional (env : Environment) (name : String) : Except StartError (Option String) :=
  if (env name).isNone then .ok none else (readRequired env name).map some

/-- A number of 64 bits in decimal digits, perhaps with a plus sign. -/
def word64? (s : String) : Option UInt64 :=
  let ds := match s.toList with
    | '+' :: rest => rest
    | cs => cs
  if !ds.isEmpty && ds.all Char.isDigit then
    let n : Nat := ds.foldl (fun n c => 10 * n + (c.toNat - '0'.toNat)) 0
    if n < UInt64.size then some n.toUInt64 else none
  else none

/-! ## The configuration -/

/-- The variable with the address of the backend. -/
def urlVariable : String := "WALLET_API_URL"

/-- The variable with the token. -/
def tokenVariable : String := "WALLET_API_TOKEN"

/-- The variable with the timeout. -/
def timeoutVariable : String := "WALLET_API_TIMEOUT_SECS"

/-- All variables that are looked at. -/
def variableNames : List String := [timeoutVariable, urlVariable, tokenVariable]

/-- How the server reaches the backend. -/
structure Config where
  url : String
  token : Option String
  timeoutSeconds : UInt64 := 30
  deriving DecidableEq, Repr

/-- The timeout, where one is set. -/
def readTimeout (env : Environment) : Except StartError (Option UInt64) := do
  match ← readOptional env timeoutVariable with
  | none => return none
  | some s =>
    match word64? s with
    | some n => return some n
    | none => .error (.invalidValue timeoutVariable s)

namespace Config

/-- The configuration; the timeout is looked at first, then the address, then the token. -/
def ofEnvironment (env : Environment) : Except StartError Config := do
  let timeout ← readTimeout env
  let url ← readRequired env urlVariable
  let token ← readOptional env tokenVariable
  match timeout with
  | none => return { url, token }
  | some timeoutSeconds => return { url, token, timeoutSeconds }

/-- The client of the backend. -/
def client (c : Config) : Client := .ofConfig c.url c.token

end Config

end WalletConsole.Server
