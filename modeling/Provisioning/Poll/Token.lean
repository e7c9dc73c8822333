/-!
# Cancel tokens

Tokens that cancel polls. The copies of a token form a family with one flag; a waiter of a token is
resolved once its family is cancelled.

A cancellation first sets the flag and then notifies the waiters. A waiter first notes how many
notifications its family has had and then looks at the flag, so that no cancellation between the two
is lost. Of notifications this is assumed: one that is sent after a wait was made ends the wait, whether
it was polled by then or not, and nothing else does.

## Main definitions

* `Family`: the flag and the number of notifications
* `Waiter`: a wait for a family, and how far it has come
* `Desk`: all families, tokens and waiters
* `Desk.create`, `Desk.copy`, `Desk.isCancelled`, `Desk.await`: tokens and waiters
* `Desk.cancel`: a cancellation, which is `Desk.raise` and then `Desk.notify`
* `Desk.pollWaiter`: a poll of a waiter, which is `Desk.arm` and then `Desk.look`
-/

namespace Provisioning.Poll

/-- What the copies of a token share. -/
structure Family where
  /-- Whether one of them was used to cancel. -/
  cancelled : Bool := false
  /-- How often waiters were notified. -/
  notifications : Nat := 0
deriving DecidableEq, Inhabited

/-- How far a waiter has come. -/
inductive Phase where
  /-- It was not polled yet. -/
  | created
  /-- It has noted the notifications so far, and looks at the flag next. -/
  | armed (seen : Nat)
  /-- The flag was not set. It waits for a notification after the first `seen`. -/
  | waiting (seen : Nat)
  /-- It has seen the cancellation. -/
  | resolved
deriving DecidableEq

namespace Phase

/-- A waiter notes the notifications so far, unless it waits for another one still. -/
def arm (family : Family) : Phase → Phase
  | .created => .armed family.notifications
  | .waiting seen => if family.notifications = seen then .waiting seen else .armed family.notifications
  | phase => phase

/-- A waiter that has noted the notifications looks at the flag. -/
def look (family : Family) : Phase → Phase
  | .armed seen => if family.cancelled then .resolved else .waiting seen
  | phase => phase

end Phase

/-- A wait for the cancellation of a family. -/
structure Waiter where
  /-- The family's place. -/
  family : Nat
  /-- How far it has come. -/
  phase : Phase := .created
deriving DecidableEq

/-- All tokens and waiters. -/
structure Desk where
  /-- The families. -/
  families : List Family := []
  /-- The family of each token. -/
  tokens : List Nat := []
  /-- The waiters. -/
  waiters : List Waiter := []

namespace Desk

/-- The place of a token's family; a token that was never made has none. -/
def familyOf? (desk : Desk) (token : Nat) : Option Nat := desk.tokens[token]?

/-- The family at a place. -/
def family (desk : Desk) (i : Nat) : Family := (desk.families[i]?).getD {}

/-- A token of a new family, and its number. -/
def create (desk : Desk) : Nat × Desk :=
  (desk.tokens.length,
    { desk with
      families := desk.families ++ [{}]
      tokens := desk.tokens ++ [desk.families.length] })

/-- A token of the family of another, and its number. -/
def copy (desk : Desk) (token : Nat) : Nat × Desk :=
  match desk.familyOf? token with
  | some f => (desk.tokens.length, { desk with tokens := desk.tokens ++ [f] })
  | none => desk.create

/-! ## Cancellations -/

/-- The desk with a token's family changed. -/
def alterFamily (f : Family → Family) (desk : Desk) (token : Nat) : Desk :=
  match desk.familyOf? token with
  | some i => { desk with families := desk.families.modify i f }
  | none => desk

/-- Sets the flag of a token's family. -/
def raise : Desk → Nat → Desk := alterFamily fun family => { family with cancelled := true }

/-- Notifies the waiters of a token's family. -/
def notify : Desk → Nat → Desk :=
  alterFamily fun family => { family with notifications := family.notifications + 1 }

/-- Sets the flag of a token's family, then notifies its waiters. -/
def cancel (desk : Desk) (token : Nat) : Desk := (desk.raise token).notify token

/-- Whether a token's family was cancelled. -/
def isCancelled (desk : Desk) (token : Nat) : Bool :=
  match desk.familyOf? token with
  | some f => (desk.family f).cancelled
  | none => false

/-! ## Waiters -/

/-- A waiter for a token's family, and its number. -/
def await (desk : Desk) (token : Nat) : Nat × Desk :=
  match desk.familyOf? token with
  | some family => (desk.waiters.length, { desk with waiters := desk.waiters ++ [{ family }] })
  | none => (desk.waiters.length, desk)

/-- The desk with a waiter taken a step forward, as its family allows. -/
def advance (step : Family → Phase → Phase) (desk : Desk) (waiter : Nat) : Desk :=
  { desk with
    waiters := desk.waiters.modify waiter fun w =>
      { w with phase := step (desk.family w.family) w.phase } }

/-- A waiter notes the notifications of its family. -/
def arm : Desk → Nat → Desk := advance Phase.arm

/-- A waiter looks at the flag of its family. -/
def look : Desk → Nat → Desk := advance Phase.look

/-- Whether a waiter has seen the cancellation. -/
def isResolved (desk : Desk) (waiter : Nat) : Bool :=
  (desk.waiters[waiter]?).any fun w => w.phase == .resolved

/-- Polls a waiter once: it notes the notifications and then looks at the flag. Whether it is
resolved. -/
def pollWaiter (desk : Desk) (waiter : Nat) : Bool × Desk :=
  let desk := (desk.arm waiter).look waiter
  (desk.isResolved waiter, desk)

end Desk

end Provisioning.Poll
