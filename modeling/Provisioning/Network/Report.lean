import Provisioning.Json.Value
import Provisioning.Network.Block

/-!
# JSON of ranges and blocks

## Main definitions

* `AddressRange.toJson`: both ends
* `Block.report`: a block, its mask, its ends and its host range
-/

namespace Provisioning

open Json Log

/-- Both ends of a range, by name. -/
def AddressRange.members (r : AddressRange) : List (String × Value) :=
  [("first", .string r.first.text), ("last", .string r.last.text)]

/-- The JSON form of a range. -/
def AddressRange.toJson (r : AddressRange) : Value := .object r.members

/-- The JSON form of a block, its host range included. -/
def Block.report (b : Block) : Logged Value := do
  let hosts ← b.hostRangeLogged
  pure (.object ([("cidr", .string b.text), ("netmask", .string b.netmask.text),
      ("broadcast", .string b.broadcast.text)] ++ hosts.members ++
    [("hosts", .integer hosts.length)]))

end Provisioning
