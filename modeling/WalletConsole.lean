import WalletConsole.Remote.Boundary
import WalletConsole.Remote.Functions
import WalletConsole.Server.Config
import WalletConsole.Server.Site
import WalletConsole.Session.Script
import WalletConsole.Session.Served
import WalletConsole.Proofs.Listing.Refetch
import WalletConsole.Proofs.Listing.Selection
import WalletConsole.Proofs.Listing.Counting
import WalletConsole.Proofs.Listing.Paging
import WalletConsole.Proofs.Listing.History
import WalletConsole.Proofs.Listing.PickedDays
import WalletConsole.Proofs.Listing.Keyword
import WalletConsole.Proofs.Listing.Forgetting
import WalletConsole.Proofs.Listing.PageArithmetic
import WalletConsole.Proofs.Listing.Partition
import WalletConsole.Proofs.Listing.Foot
import WalletConsole.Proofs.Listing.Mirror
import WalletConsole.Proofs.Listing.Generations
import WalletConsole.Proofs.Listing.Tabs
import WalletConsole.Proofs.Listing.Chips
import WalletConsole.Proofs.Listing.Ledgers
import WalletConsole.Proofs.Listing.DateFields
import WalletConsole.Proofs.Listing.Columns
import WalletConsole.Proofs.Session.Overlap
import WalletConsole.Proofs.Session.Accounts
import WalletConsole.Proofs.Session.Failure
import WalletConsole.Proofs.Session.PartialDelete
import WalletConsole.Proofs.Session.Exclusive
import WalletConsole.Proofs.Session.Toasts
import WalletConsole.Proofs.Session.Counting
import WalletConsole.Proofs.Json.Records
import WalletConsole.Proofs.Calendar.RoundTrip
import WalletConsole.Proofs.Wallet.RoundTrip
import WalletConsole.Proofs.Wallet.Amounts
import WalletConsole.Proofs.Remote.Boundary
import WalletConsole.Proofs.Remote.Wiring
import WalletConsole.Proofs.Remote.Tokens
import WalletConsole.Proofs.Remote.Address
import WalletConsole.Proofs.Remote.Percent
import WalletConsole.Proofs.Remote.SingleDelete
import WalletConsole.Proofs.Remote.Form
import WalletConsole.Proofs.Remote.BulkDelete
import WalletConsole.Proofs.Json.Objects
import WalletConsole.Proofs.Server.Config
import WalletConsole.Proofs.Server.Site
import WalletConsole.Proofs.Remote.Refusals
