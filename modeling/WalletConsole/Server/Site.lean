import WalletConsole.Text.Split
import WalletConsole.Html.Panel
import WalletConsole.Server.RequestPath

/-!
# The pages of the dashboard

Three pages and the health check. Only the very path of a page is the place to be; any other path
is answered as not found, with the page that its location shows, if it shows one. Pages are sent
before anything is fetched, so their lists are loading.

* `Page.ofLocation` — the page that a location shows
* `answer` — the answer to a request
-/

namespace WalletConsole.Server

open Html Text Calendar

/-! ## Pages -/

/-- What can be shown. -/
inductive Page where
  | transactions
  | lnAddresses
  | apiKeys
  | notFound
  deriving DecidableEq, Repr

namespace Page

/-- The pages with their paths and what links call them. -/
def links : List (Page × String × String) :=
  [(.transactions, "/", "Transactions"), (.lnAddresses, "/ln-addresses", "Lightning addresses"),
   (.apiKeys, "/api-keys", "API keys")]

/-- Is this the very path of a page? -/
def isPath (path : String) : Bool := links.any fun link => link.2.1 == path

/-- The page that a location shows. Behind the path of a page, but for the root, may be a slash. -/
def ofLocation (location : String) : Page :=
  let shown := links.find? fun (_, path, _) =>
    path == location || path != "/" && path ++ "/" == location
  shown.elim .notFound (·.1)

/-- A list before anything is fetched, newest rows first. -/
def emptyList (now : Instant) (R : Type) [Viewed R] (sortColumn : Record.Column R) :
    Except Miscount Node :=
  listPanel now .loading (Listing.ofOptions (R := R) ⟨sortColumn, .desc, 25, false⟩)

/-- What is in the middle of a page. -/
def content (now : Instant) : Page → Except Miscount (List Node)
  | .transactions => do
    let invoices ← emptyList now Invoice TransactionColumn.createdAt
    let payments ← emptyList now Payment TransactionColumn.createdAt
    return [styled "div" "top-row" [balanceLoading], styled "div" "bottom-row" [invoices],
      styled "div" "bottom-row" [payments]]
  | .lnAddresses => return [← emptyList now LnAddress LnAddressColumn.createdAt]
  | .apiKeys => return [← emptyList now ApiKey ApiKeyColumn.createdAt]
  | .notFound => return [styled "p" "empty-state" [.text "Page not found"]]

/-- Is the location the linked one or below it? -/
def isCurrent (href location : String) : Bool :=
  (splitWhere (· == '/') href.toList).isPrefixOf (splitWhere (· == '/') location.toList)

/-- A link to a page. -/
def linkView (location href label : String) : Node :=
  .element "a"
    (.pair "href" href :: if isCurrent href location then [.pair "aria-current" "page"] else [])
    [.text label]

/-- The page at a location. -/
def view (now : Instant) (location : String) : Except Miscount Node := do
  let middle ← (ofLocation location).content now
  return styled "div" "container"
    [styled "header" "app-header"
      [bare "h1" [.text "⚡ Wallet Dashboard"],
       styled "nav" "app-nav" (links.map fun (_, href, label) => linkView location href label)],
     styled "main" "app-main" middle]

end Page

/-! ## Answers -/

/-- What an answer carries. -/
inductive Body where
  | nothing
  | plain (s : String)
  | page (n : Node)

/-- The type of what an answer carries. -/
def Body.contentType? : Body → Option String
  | .nothing => none
  | .plain _ => some "text/plain; charset=utf-8"
  | .page _ => some "text/html; charset=utf-8"

/-- An answer. To a `HEAD` request it is sent without its body. -/
structure Reply where
  status : Nat
  body : Body
  bodySent : Bool := true

/-- An answer that says no more than its status. -/
def Reply.ofStatus (status : Nat) : Reply := ⟨status, .nothing, true⟩

/-- Does the method only ask for what is there? -/
def isReading (method : String) : Bool := method = "GET" || method = "HEAD"

/-- The answer with a body. -/
def Reply.withBody (method : String) (status : Nat) (body : Body) : Reply :=
  ⟨status, body, method != "HEAD"⟩

/-- The health check. -/
def health (method : String) : Reply :=
  if isReading method then .withBody method 200 (.plain "ok") else .ofStatus 405

/-- The path of the health check. -/
def healthPath : String := "/health"

/-- The answer of the health check alone. -/
def healthOnly (method target : String) : Reply :=
  if requestPath target = healthPath then health method else .ofStatus 404

/-- The answer of the whole site. Any origin may ask with `OPTIONS` what it is allowed to do. -/
def answer (now : Instant) (method target : String) : Except Miscount Reply :=
  let path := requestPath target
  let page (status : Nat) : Except Miscount Reply := do
    return .withBody method status (.page (← Page.view now (location path)))
  if method = "OPTIONS" then return .ofStatus 200
  else if path = healthPath then return health method
  else if !Page.isPath path then page 404
  else if isReading method then page 200
  else return .ofStatus 405

end WalletConsole.Server
