import Mathlib.Tactic.Common

/-!
# Addresses
-/

namespace MishProxy.Net

/-- An address of either family, as its bits. -/
inductive IpAddr where
  | v4 (bits : BitVec 32)
  | v6 (bits : BitVec 128)
  deriving DecidableEq, Repr

def IpAddr.isIpv4 : IpAddr → Bool
  | .v4 _ => true
  | .v6 _ => false

end MishProxy.Net
