import FrameLink.Address.Basic

/-!
The text of addresses. An IPv4 address is four decimal octets between dots. An IPv6 address is
written in lowercase hexadecimal groups without leading zeros, its first longest run of two or
more zero groups shortened to `::`; an IPv4-mapped address is written `::ffff:a.b.c.d`. A
socket address puts an IPv6 address in brackets, with `%scope` when the scope is not zero, and
the port after a colon.
-/

namespace FrameLink

def Ipv4.toText (a : Ipv4) : String :=
  ".".intercalate (a.octets.toList.map fun o => toString o.toNat)

/-- A run of zero groups: where it starts and how long it is. -/
structure ZeroRun where
  start : Nat
  length : Nat

/-- The first longest run of zero groups; `current` is the run still open, `best` the longest closed. -/
def longestZeroRun : List UInt16 → Nat → ZeroRun → ZeroRun → ZeroRun
  | [], _, _, best => best
  | g :: rest, index, current, best =>
    if g = 0 then
      let current := if current.length = 0 then ⟨index, 1⟩ else ⟨current.start, current.length + 1⟩
      let best := if best.length < current.length then current else best
      longestZeroRun rest (index + 1) current best
    else longestZeroRun rest (index + 1) ⟨0, 0⟩ best

def groupsText (groups : List UInt16) : String :=
  ":".intercalate (groups.map fun g => String.ofList (Nat.toDigits 16 g.toNat))

def Ipv6.toText (a : Ipv6) : String :=
  match a.toIpv4Mapped? with
  | some b => "::ffff:" ++ b.toText
  | none =>
    let groups := a.groups.toList
    let run := longestZeroRun groups 0 ⟨0, 0⟩ ⟨0, 0⟩
    if 1 < run.length then
      groupsText (groups.take run.start) ++ "::" ++ groupsText (groups.drop (run.start + run.length))
    else groupsText groups

def IpAddr.toText : IpAddr → String
  | .v4 a => a.toText
  | .v6 a => a.toText

def SocketAddr.toText : SocketAddr → String
  | .v4 a port => a.toText ++ ":" ++ toString port.toNat
  | .v6 a port _ scope =>
    let host := if scope = 0 then a.toText else a.toText ++ "%" ++ toString scope.toNat
    "[" ++ host ++ "]:" ++ toString port.toNat

end FrameLink
