import WalletConsole.Remote.Url

/-!
# The path of a request

A request says what it asks for by a path, or by a whole address of which only the path counts. As
it is written, the path picks what answers. A page shows itself at its location, in which a
backslash is a slash and dot segments are resolved.

* `requestPath` — the path that is asked for
* `location` — where a page stands that was asked for by a path
-/

namespace WalletConsole.Server

open Remote

/-! ## Paths -/

/-- Characters that the name of a scheme has. -/
def isSchemeChar (c : Char) : Bool := c.isAlphanum || c == '+' || c == '-' || c == '.'

/-- A path, without query and fragment. -/
def pathPart (s : List Char) : List Char := s.takeWhile (!Url.endsPath ·)

/-- Without the scheme and the host of an address, if it has them. -/
def afterHost? (s : List Char) : Option (List Char) :=
  match s.dropWhile isSchemeChar with
  | ':' :: '/' :: '/' :: rest => some (rest.dropWhile fun c => !(c == '/' || Url.endsPath c))
  | _ => none

/-- The path that is asked for. An address without one asks for the root, a mere host for none. -/
def requestPath (target : String) : String :=
  let s := target.toList
  if s.head? = some '/' || s = ['*'] then String.ofList (pathPart s)
  else match (afterHost? s).map pathPart with
    | none => ""
    | some [] => "/"
    | some path => String.ofList path

/-! ## Locations -/

/-- The path of the address at which a page stands; what is in front of a slash names the host. -/
def location (path : String) : String :=
  let afterHost := path.toList.dropWhile (!Url.endsAuthority ·)
  String.ofList ((Url.pathOf afterHost).flatMap ('/' :: ·))

end WalletConsole.Server
