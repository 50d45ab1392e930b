import FrameLink.Address.Parse

/-!
Resolving hosts to addresses. A host written as an IP address resolves to that address alone;
the address families can be filtered. Host names need a name service and are not resolved here.
-/

namespace FrameLink

/-- Which address families a resolution keeps. -/
inductive Family where
  | any
  | v4
  | v6
deriving DecidableEq, Repr

def Family.admits : Family → IpAddr → Bool
  | .any, _ => true
  | .v4, a => a.isV4
  | .v6, a => !a.isV4

/-- The addresses of a host written as an IP address, filtered by family; `none` for a host name. -/
def resolveNumeric (host : String) (family : Family) : Option (List IpAddr) :=
  (IpAddr.ofText? host).map fun a => [a].filter family.admits

end FrameLink
