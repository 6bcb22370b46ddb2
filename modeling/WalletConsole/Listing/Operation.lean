import WalletConsole.Listing.Chips

/-!
# What can be done to a list

Everything that the user, the backend or the browser does to a list, as one type, and what each of
it answers. A run of a list is a list of operations.

* `Operation.run` — the list afterwards, and the answer
* `Operation.attempt` — the same, unless counting on the way fails
-/

namespace WalletConsole

open Calendar

/-- Something that is done to a list. -/
inductive Operation (R : Type) [Record R] where
  | setKeyword (keyword : String)
  | setStatus (status : StatusChoice (Record.Status R))
  | flipLedger (ledger : Ledger)
  | setEarliest (t : Option Instant)
  | setLatest (t : Option Instant)
  /-- a date field was changed to this text -/
  | pickEarliest (text : String)
  | pickLatest (text : String)
  /-- turns all criteria off -/
  | takeAllOff
  | takeOff (criterion : Criterion)
  | sortBy (column : Record.Column R)
  | flipRow (id : String)
  | selectVisible (checked : Bool)
  | goTo (page : Nat)
  | resize (pageSize : Nat)
  | setDense (dense : Bool)
  | adopt (preferences : Preferences)
  | askRow (id : String)
  | askSelected
  | decline
  | accept
  | close
  | forgetRow (id : String)
  | forgetRows (ids : List String)
  /-- takes rows away and leaves it at that -/
  | dropRows (ids : List String)
  | startRefresh
  | failRefresh
  | receive (rows : List R)
  | endRefresh (result : Except FetchError (List R))

/-- What an operation answers. -/
inductive Reply where
  | nothing
  | flag (b : Bool)
  | count (n : Nat)
  | target (t : Option Target)
  | fetched (result : Except FetchError Nat)

namespace Operation

variable {R : Type} [Record R]

/-- Does something to the view alone. -/
def onView (change : Viewport (Record.Column R) → Viewport (Record.Column R)) (l : Listing R) :
    Listing R × Reply :=
  ({ l with view := change l.view }, .nothing)

/-- Does something to the rows alone. -/
def onReplica (change : Replica R → Replica R) (l : Listing R) : Listing R :=
  { l with replica := change l.replica }

/-- The list after an operation, and its answer. -/
def run (now : Instant) (l : Listing R) : Operation R → Listing R × Reply
  | .setKeyword keyword => (l.refilter now fun c => { c with keyword }, .nothing)
  | .setStatus status => (l.refilter now fun c => { c with status }, .nothing)
  | .flipLedger ledger => (l.refilter now (·.flipLedger ledger), .nothing)
  | .setEarliest t => (l.refilter now fun c => { c with earliest := t }, .nothing)
  | .setLatest t => (l.refilter now fun c => { c with latest := t }, .nothing)
  | .pickEarliest s => (l.refilter now fun c => { c with earliest := startOf? s }, .nothing)
  | .pickLatest s => (l.refilter now fun c => { c with latest := endOf? s }, .nothing)
  | .takeAllOff => (l.refilter now fun _ => .off, .nothing)
  | .takeOff criterion => (l.takeOff now criterion, .nothing)
  | .sortBy column => onView (·.sortBy column) l
  | .flipRow id => onView (·.flipRow id) l
  | .selectVisible checked => (l.selectVisible now checked, .nothing)
  | .goTo page => onView (·.goTo page) l
  | .resize n => onView (·.resize n) l
  | .setDense dense => onView (·.setDense dense) l
  | .adopt preferences => onView (·.adopt preferences) l
  | .askRow id => ((l.askRow id).1, .flag (l.askRow id).2)
  | .askSelected => (l.askSelected.1, .flag l.askSelected.2)
  | .decline =>
    ({ l with confirmation := l.confirmation.decline.1 }, .flag l.confirmation.decline.2)
  | .accept => ({ l with confirmation := l.confirmation.accept.1 }, .target l.confirmation.accept.2)
  | .close => ({ l with confirmation := l.confirmation.close }, .nothing)
  | .forgetRow id => (l.forgetRow now id, .nothing)
  | .forgetRows ids => (l.forgetRows now ids, .count (l.replica.countOf ids))
  | .dropRows ids => (onReplica (·.forget ids) l, .count (l.replica.countOf ids))
  | .startRefresh => (onReplica (·.startRefresh) l, .nothing)
  | .failRefresh => (onReplica (·.failRefresh) l, .nothing)
  | .receive rows => (l.receive now rows, .nothing)
  | .endRefresh result => (l.endRefresh now result, .fetched (result.map (·.length)))

/-! ### Counting -/

/-- Do the rows on the page have to be counted? -/
def countsPage : Operation R → Bool
  | .forgetRow _ | .forgetRows _ => true
  | _ => false

/-- Counts what has to be counted for an operation. -/
def count (now : Instant) (l : Listing R) (op : Operation R) : Except Miscount Unit :=
  if op.countsPage then discard (l.cutPage now) else .ok ()

/-- Does what is to be done, once it is counted. -/
def attempt (now : Instant) (l : Listing R) (op : Operation R) :
    Except Miscount (Listing R × Reply) := do
  op.count now l
  return op.run now l

end Operation

end WalletConsole
