import Provisioning.Text.Natural

/-!
# Styled text

Text for a terminal: a style opens with a control sequence and closes with another one, if the
terminal shows styles at all.

## Main definitions

* `Colour`, `Style`: what text can look like
* `padded`: text filled up to a width
* `paintPadded`, `paint`: text in a style
-/

namespace Provisioning.Terminal

/-- The colours in use. -/
inductive Colour where
  | red | green | yellow | blue
deriving DecidableEq

/-- The code of a colour. -/
def Colour.code : Colour → String
  | .red => "31"
  | .green => "32"
  | .yellow => "33"
  | .blue => "34"

/-- A look of text. -/
structure Style where
  /-- Whether it is bold. -/
  bold : Bool := false
  /-- Its colour, if not that of other text. -/
  colour : Option Colour := none
deriving DecidableEq

/-- The style of headings and names. -/
def Style.strong : Style := { bold := true }

/-- The style of a colour. -/
def Style.of (colour : Colour) : Style := { colour := some colour }

/-- The style of a colour in bold. -/
def Style.strongOf (colour : Colour) : Style := { bold := true, colour := some colour }

/-- The codes of a style: boldness comes before colour. -/
def Style.codes (style : Style) : List String :=
  (if style.bold then ["1"] else []) ++ (style.colour.map Colour.code).toList

/-- The sequence that opens a style. -/
def Style.opening (style : Style) : String :=
  "\x1b[" ++ String.intercalate ";" style.codes ++ "m"

/-- The sequence that closes every style. -/
def closing : String := "\x1b[0m"

/-- Text filled up with spaces to a width; longer text stays as it is. -/
def padded (width : Nat) (text : String) : String :=
  text ++ Text.repeated (width - text.length) ' '

/-- Text in which every closing sequence is followed by an opening one, so that a style goes on
behind inner styles. -/
def reopened (opening : List Char) : List Char → List Char
  | '\x1b' :: '[' :: '0' :: 'm' :: rest =>
    '\x1b' :: '[' :: '0' :: 'm' :: (opening ++ reopened opening rest)
  | c :: rest => c :: reopened opening rest
  | [] => []

/-- Text in a style, filled up to a width within the style. -/
def paintPadded (styled : Bool) (style : Style) (width : Nat) (text : String) : String :=
  if styled then
    let inner := String.ofList (reopened style.opening.toList text.toList)
    style.opening ++ padded width inner ++ closing
  else padded width text

/-- Text in a style. -/
def paint (styled : Bool) (style : Style) (text : String) : String :=
  paintPadded styled style 0 text

end Provisioning.Terminal
