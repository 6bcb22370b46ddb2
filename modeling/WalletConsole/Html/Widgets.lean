import WalletConsole.Text.Case
import WalletConsole.Wallet.FetchError
import WalletConsole.Session.Toasts
import WalletConsole.Qr.Symbol
import WalletConsole.Html.Node

/-!
# Small parts of a page

Badges, messages, the question before a delete, the view of a failure, the balance while it is
fetched, codes to be scanned.
-/

namespace WalletConsole.Html

open Text

/-- A badge for a status. -/
def badge (label : String) : Node :=
  styled "span" ("badge badge-" ++ lowered label) [.text label]

/-- A button that copies something. -/
def copyButton : Node := button "btn btn-secondary btn-inline" false "Copy"

/-! ## Messages -/

/-- A message. -/
def toastView (t : Toast) : Node :=
  styled "div" ("toast " ++ t.level.style)
    [bare "span" [.text t.message], button "btn-close" false "×"]

/-- The messages on the screen. -/
def toastList (t : Toasts) : Node := styled "div" "toast-stack" (t.stack.map toastView)

/-! ## The question before a delete -/

/-- The question, if it is asked. -/
def question (isShown isBusy : Bool) (title deleteLabel content : String) : List Node :=
  if !isShown then []
  else
    [styled "div" "dialog-backdrop"
      [styledWith "div" [.pair "role" "alertdialog"] "dialog"
        [styled "h3" "dialog-title" [.text title],
         styled "p" "dialog-content" [.text content],
         styled "div" "dialog-actions"
          [button "btn btn-secondary" isBusy "Cancel",
           button "btn btn-danger" isBusy (if isBusy then "Working..." else deleteLabel)]]]]

/-! ## Failures and waiting -/

/-- What a failed page says. -/
def failureMessage : Option FetchError → String
  | none => ""
  | some (.unreachable _) => "The wallet service could not be reached."
  | some e => e.reason

/-- Stands in for a page whose data could not be fetched. -/
def failurePanel (e : Option FetchError) : Node :=
  styled "div" "panel failed-view"
    [bare "h2" [.text "Something went wrong"],
     styled "p" "error-message" [.text (failureMessage e)],
     button "btn btn-primary" false "Retry"]

/-- The balance while it is fetched. -/
def balanceLoading : Node :=
  styled "div" "panel balance-display"
    [bare "h2" [.text "Balance"], bare "p" [.text "Loading balance..."]]

/-! ## Codes to be scanned -/

/-- A text as a code of at least `width` pixels; nothing for an empty text. -/
def qrCode (data : String) (width : Nat) : Node :=
  styled "div" "qr-code" <|
    if data.isEmpty then []
    else match Qr.pixels? data width with
      | some side => [.drawing side]
      | none => [styled "p" "error-message" [.text "Failed to generate QR code"]]

end WalletConsole.Html
