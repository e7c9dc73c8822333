import Provisioning.Network.Address

/-!
# Errors about blocks, ranges and pools

## Main definitions

* `AddressError`: why a text is no block, or two addresses no range
* `PoolError`: why a pool refuses a request
-/

namespace Provisioning

/-- Why a text is no block, or two addresses no range. -/
inductive AddressError where
  /-- No slash. -/
  | missingPrefix (text : String)
  /-- No address before the slash. -/
  | invalidAddress (text : String)
  /-- No prefix length after the slash. -/
  | invalidPrefix (text : String)
  /-- The first address is after the last. -/
  | inverted (first last : Address)
deriving DecidableEq

/-- The wording of an error. -/
def AddressError.message : AddressError → String
  | .missingPrefix text => "CIDR error: Missing prefix length in '" ++ text ++ "'"
  | .invalidAddress text => "CIDR error: Invalid address in '" ++ text ++ "'"
  | .invalidPrefix text => "CIDR error: Invalid prefix length in '" ++ text ++ "'"
  | .inverted first last =>
    "CIDR error: Range start " ++ first.text ++ " is after its end " ++ last.text

/-- Why a pool refuses a request. -/
inductive PoolError where
  /-- No address is free. -/
  | exhausted
  /-- The address is not in the pool's range. -/
  | outOfRange (address : Address)
  /-- The address is held already. -/
  | alreadyHeld (address : Address)
  /-- The address is not held. -/
  | notHeld (address : Address)
deriving DecidableEq

/-- The wording of an error. -/
def PoolError.message : PoolError → String
  | .exhausted => "Address pool error: Address pool exhausted"
  | .outOfRange x => "Address pool error: Address " ++ x.text ++ " is outside the pool range"
  | .alreadyHeld x => "Address pool error: Address " ++ x.text ++ " is already allocated"
  | .notHeld x => "Address pool error: Address " ++ x.text ++ " is not allocated"

end Provisioning
