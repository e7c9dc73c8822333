import Provisioning.Command.Arguments
import Provisioning.Command.Session
import Provisioning.Network.Pool
import Provisioning.Terminal.Table

/-!
# The pool command

Allocates the lowest free addresses of a block's host range.

## Main definitions

* `PoolArguments.allocation`: the allocated addresses and the pool afterwards
* `PoolArguments.run`: the command
-/

namespace Provisioning.PoolArguments

open Log Terminal

/-- The refusal of a count that exceeds the free addresses. -/
def tooMany (a : PoolArguments) (pool : Pool) : CommandError :=
  .invalidInput ("Requested " ++ toString a.count ++ " addresses but only " ++
    toString pool.available ++ " are free in " ++ a.block)

/-- The addresses allocated from a pool once some are reserved, and the pool afterwards. -/
def allocateFrom (a : PoolArguments) (pool : Pool) : Except CommandError (List Address × Pool) :=
  match pool.reserveAll a.reserved with
  | .error e => .error (.pool e)
  | .ok pool =>
    if pool.available < a.count then .error (a.tooMany pool)
    else
      match pool.allocateMany a.count with
      | .error e => .error (.pool e)
      | .ok result => .ok result

/-- The entry that reports allocated addresses. -/
def allocatedEntry (a : PoolArguments) (allocated : List Address) : Entry :=
  ⟨.debug, "allocated [" ++ String.intercalate ", " (allocated.map Address.text) ++ "] from " ++
    a.block⟩

/-- The addresses allocated from the block, and the pool afterwards. -/
def allocation (a : PoolArguments) : Logged (Except CommandError (List Address × Pool)) := do
  match ← Pool.ofCidr a.block with
  | .error e => return .error (.address e)
  | .ok pool =>
    match a.allocateFrom pool with
    | .error e => return .error e
    | .ok (allocated, pool) =>
      Logged.note (a.allocatedEntry allocated)
      return .ok (allocated, pool)

/-- The rows of addresses, numbered from `n` on. -/
def numberedRows : Nat → List Address → List (List String)
  | _, [] => []
  | n, x :: more => [toString n, x.text] :: numberedRows (n + 1) more

/-- Addresses as text; nothing if there are none. -/
def tableText (styled : Bool) (allocated : List Address) : String :=
  if allocated.isEmpty then ""
  else { headings := ["#", "Address"], rows := numberedRows 1 allocated : Table }.text styled

/-- What is said about an allocation. -/
def summary (allocated : List Address) (pool : Pool) : String :=
  "Allocated " ++ toString allocated.length ++ " address(es); " ++ toString pool.available ++
    " of " ++ toString pool.range.length ++ " free in " ++ pool.range.first.text ++ " - " ++
    pool.range.last.text

/-- The command. -/
def run {m : Type → Type} [Monad m] (styled : Bool) (a : PoolArguments) : Session m Unit := do
  let (allocated, pool) ← Session.require id (← Session.logged a.allocation)
  Session.print (tableText styled allocated)
  Session.notice styled .success (summary allocated pool)

end Provisioning.PoolArguments
