import FrameLink.Address.Basic

/-!
Reading addresses from text. An IPv4 address is four decimal numbers below 256 between dots,
each of at most three digits and with no leading zero. An IPv6 address is up to eight groups of
at most four hexadecimal digits between colons, one `::` standing for one or more zero groups,
and an IPv4 address in place of the last two groups. A socket address is an IPv4 address and a
port, or a bracketed IPv6 address with an optional `%scope` and a port. The whole text must be
read.
-/

namespace FrameLink.Address

/-- A reader takes what it understands off the front of a text and gives back the rest. -/
abbrev Reader (α : Type) := List Char → Option (α × List Char)

def digitValue? (radix : Nat) (c : Char) : Option Nat :=
  let v :=
    if '0' ≤ c ∧ c ≤ '9' then some (c.toNat - 48)
    else if 'a' ≤ c ∧ c ≤ 'f' then some (c.toNat - 87)
    else if 'A' ≤ c ∧ c ≤ 'F' then some (c.toNat - 55)
    else none
  match v with
  | some d => if d < radix then some d else none
  | none => none

def isDigit (radix : Nat) (c : Char) : Bool := (digitValue? radix c).isSome

/-- The number the digits stand for, most significant first. -/
def digitsValue (radix : Nat) (digits : List Char) : Nat :=
  digits.foldl (fun acc c => acc * radix + (digitValue? radix c).getD 0) 0

/-- A number of the radix: at least one digit, at most `maxDigits`, below `bound`, and no leading
zero unless `zeroPrefix`. -/
def readNumber (radix : Nat) (maxDigits : Option Nat) (zeroPrefix : Bool) (bound : Nat) :
    Reader Nat := fun cs =>
  let digits := cs.takeWhile (isDigit radix)
  let value := digitsValue radix digits
  if digits.isEmpty then none
  else if maxDigits.any (· < digits.length) then none
  else if bound ≤ value then none
  else if !zeroPrefix && digits.head? = some '0' && 1 < digits.length then none
  else some (value, cs.dropWhile (isDigit radix))

def expect (c : Char) : Reader Unit
  | d :: rest => if d = c then some ((), rest) else none
  | [] => none

def readIpv4 : Reader Ipv4 := fun cs => do
  let octet := readNumber 10 (some 3) false 256
  let (a, cs) ← octet cs
  let ((), cs) ← expect '.' cs
  let (b, cs) ← octet cs
  let ((), cs) ← expect '.' cs
  let (c, cs) ← octet cs
  let ((), cs) ← expect '.' cs
  let (d, cs) ← octet cs
  pure (Ipv4.ofOctets (UInt8.ofNat a) (UInt8.ofNat b) (UInt8.ofNat c) (UInt8.ofNat d), cs)

/-- The colon in front of every group but the first. -/
def separator (index : Nat) : Reader Unit := fun cs =>
  if index = 0 then some ((), cs) else expect ':' cs

/-- The two groups an embedded IPv4 address fills. -/
def embeddedGroups (a : Ipv4) : List UInt16 :=
  [(a.octets[0].toUInt16 <<< 8) ||| a.octets[1].toUInt16,
   (a.octets[2].toUInt16 <<< 8) ||| a.octets[3].toUInt16]

/-- Groups between colons, at most `limit`; an IPv4 address may take the last two and ends the
reading. -/
def readGroups (limit index : Nat) (cs : List Char) : List UInt16 × Bool × List Char :=
  if index < limit then
    let embedded :=
      if index + 1 < limit then
        match separator index cs with
        | some ((), rest) => readIpv4 rest
        | none => none
      else none
    match embedded with
    | some (a, rest) => (embeddedGroups a, true, rest)
    | none =>
      let group :=
        match separator index cs with
        | some ((), rest) => readNumber 16 (some 4) true 65536 rest
        | none => none
      match group with
      | some (g, rest) =>
        let (more, v4, rest) := readGroups limit (index + 1) rest
        (UInt16.ofNat g :: more, v4, rest)
      | none => ([], false, cs)
  else ([], false, cs)
termination_by limit - index

def ipv6OfGroups (groups : List UInt16) : Option Ipv6 :=
  if h : groups.toArray.size = 8 then some ⟨⟨groups.toArray, h⟩⟩ else none

def readIpv6 : Reader Ipv6 := fun cs =>
  let (head, v4, rest) := readGroups 8 0 cs
  if head.length = 8 then (ipv6OfGroups head).map (·, rest)
  else if v4 then none
  else
    match rest with
    | ':' :: ':' :: rest =>
      let (tail, _, rest) := readGroups (8 - (head.length + 1)) 0 rest
      let zeros := List.replicate (8 - head.length - tail.length) 0
      (ipv6OfGroups (head ++ zeros ++ tail)).map (·, rest)
    | _ => none

/-- An IP address of either family: IPv4 if an IPv4 address starts the text. -/
def readIp : Reader IpAddr := fun cs =>
  match readIpv4 cs with
  | some (a, rest) => some (.v4 a, rest)
  | none => (readIpv6 cs).map fun (a, rest) => (.v6 a, rest)

def readPort : Reader UInt16 := fun cs => do
  let ((), cs) ← expect ':' cs
  let (p, cs) ← readNumber 10 none true 65536 cs
  pure (UInt16.ofNat p, cs)

def readScope : Reader UInt32 := fun cs => do
  let ((), cs) ← expect '%' cs
  let (s, cs) ← readNumber 10 none true (Nat.pow 2 32) cs
  pure (UInt32.ofNat s, cs)

def readSocketAddr : Reader SocketAddr := fun cs =>
  let v4 : Option (SocketAddr × List Char) := do
    let (a, cs) ← readIpv4 cs
    let (p, cs) ← readPort cs
    pure (.v4 a p, cs)
  match v4 with
  | some r => some r
  | none => do
    let ((), cs) ← expect '[' cs
    let (a, cs) ← readIpv6 cs
    let (scope, cs) := (readScope cs).getD (0, cs)
    let ((), cs) ← expect ']' cs
    let (p, cs) ← readPort cs
    pure (.v6 a p 0 scope, cs)

/-- The value a reader takes from the whole of a text. -/
def whole {α : Type} (r : Reader α) (text : String) : Option α :=
  match r text.toList with
  | some (a, []) => some a
  | _ => none

end FrameLink.Address

namespace FrameLink

def IpAddr.ofText? (text : String) : Option IpAddr := Address.whole Address.readIp text

def SocketAddr.ofText? (text : String) : Option SocketAddr :=
  Address.whole Address.readSocketAddr text

end FrameLink
