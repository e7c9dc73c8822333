import Provisioning.Command.Arguments
import Provisioning.Command.Session
import Provisioning.Json.Print
import Provisioning.Network.Report
import Provisioning.Terminal.Report

/-!
# The range command

Shows the host ranges of blocks. All blocks are read before anything is shown.

## Main definitions

* `RangeArguments.readBlocks`: the blocks
* `RangeArguments.run`: the command
-/

namespace Provisioning.RangeArguments

open Log

/-- The blocks of the arguments. -/
def readBlocks (a : RangeArguments) : Except AddressError (List Block) := a.blocks.mapM Block.read

/-- The host ranges of blocks as text. -/
def text (styled json : Bool) (blocks : List Block) : Logged String := do
  if json then
    let reports ← blocks.mapM Block.report
    return Json.pretty (.array reports) ++ "\n"
  else return (← Terminal.hostRangeTable blocks).text styled

/-- The command. -/
def run {m : Type → Type} [Monad m] (styled : Bool) (a : RangeArguments) : Session m Unit := do
  let blocks ← Session.require .address a.readBlocks
  Session.print (← Session.logged (text styled a.json blocks))

end Provisioning.RangeArguments
