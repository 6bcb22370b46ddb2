import WalletConsole.Text.Blank

/-!
# Trees of HTML

What a page shows is built as a tree; text is made from it in one place, and escaped there.

* `Node.html` — the text of a node
* `escapeText`, `escapeAttribute` — text without the characters that mean something to a browser
-/

namespace WalletConsole.Html

open Text

/-- An attribute: with a value, or one that is only there. -/
inductive Attribute where
  | pair (name value : String)
  | flag (name : String)
  deriving DecidableEq, Repr

/-- A node of the tree. -/
inductive Node where
  | element (tag : String) (attributes : List Attribute) (children : List Node)
  | text (s : String)
  /-- a drawing, of which only the size in pixels is told -/
  | drawing (side : Nat)

/-! ## Escaping -/

/-- A character of a text. -/
def escapeTextChar : Char → List Char
  | '&' => "&amp;".toList
  | '<' => "&lt;".toList
  | '>' => "&gt;".toList
  | c => [c]

/-- A character of the value of an attribute. -/
def escapeAttributeChar : Char → List Char
  | '"' => "&quot;".toList
  | c => escapeTextChar c

/-- A text. -/
def escapeText (s : String) : String := String.ofList (s.toList.flatMap escapeTextChar)

/-- The value of an attribute. -/
def escapeAttribute (s : String) : String := String.ofList (s.toList.flatMap escapeAttributeChar)

/-! ## Text of a tree -/

/-- An attribute behind a blank. -/
def Attribute.html : Attribute → String
  | .pair name value => " " ++ name ++ "=\"" ++ escapeAttribute value ++ "\""
  | .flag name => " " ++ name

/-- The opening tag of an element. -/
def openTag (tag : String) (attributes : List Attribute) : String :=
  "<" ++ tag ++ String.join (attributes.map Attribute.html) ++ ">"

/-- The closing tag of an element; an input has none. -/
def closeTag (tag : String) : String := if tag = "input" then "" else "</" ++ tag ++ ">"

mutual

/-- The text of a node. A text that is empty is kept as one blank. -/
def Node.html : Node → String
  | .element tag attributes children => openTag tag attributes ++ listHtml children ++ closeTag tag
  | .text s => if s.isEmpty then " " else escapeText s
  | .drawing side => "[svg " ++ toString side ++ "x" ++ toString side ++ "]"

/-- The text of some nodes. -/
def listHtml : List Node → String
  | [] => ""
  | n :: rest => n.html ++ listHtml rest

end

/-! ## Elements -/

/-- An element without attributes. -/
def bare (tag : String) (children : List Node) : Node := .element tag [] children

/-- The class of an element; blanks at its ends are left out. -/
def classed (names : String) : Attribute := .pair "class" (trimmed names)

/-- An element of a class. -/
def styled (tag cssClass : String) (children : List Node) : Node :=
  .element tag [classed cssClass] children

/-- An element of a class with other attributes, which are written first. -/
def styledWith (tag : String) (attributes : List Attribute) (cssClass : String)
    (children : List Node) : Node :=
  .element tag (attributes ++ [classed cssClass]) children

/-- A field of a form. -/
def inputOf (attributes : List Attribute) : Node := .element "input" attributes []

/-- A box to be ticked. -/
def checkbox : Node := inputOf [.pair "type" "checkbox"]

/-- A button that may be out of use. -/
def button (cssClass : String) (disabled : Bool) (label : String) : Node :=
  styledWith "button" (.pair "type" "button" :: if disabled then [.flag "disabled"] else [])
    cssClass [.text label]

end WalletConsole.Html
