import Provisioning.Terminal.Style

/-!
# Notices

One-line messages, each with the sign of its kind.

## Main definitions

* `Notice`: the kinds
* `Notice.line`: the line of a message
-/

namespace Provisioning.Terminal

/-- The kinds of messages. -/
inductive Notice where
  | success | error | warning | info
deriving DecidableEq

namespace Notice

/-- The sign of a kind. -/
def sign : Notice → String
  | success => "✓"
  | error => "✗"
  | warning => "⚠"
  | info => "ℹ"

/-- The colour of a sign. -/
def colour : Notice → Colour
  | success => .green
  | error => .red
  | warning => .yellow
  | info => .blue

/-- The line of a message. -/
def line (styled : Bool) (kind : Notice) (message : String) : String :=
  paint styled (.strongOf kind.colour) kind.sign ++ " " ++ message ++ "\n"

end Notice

end Provisioning.Terminal
