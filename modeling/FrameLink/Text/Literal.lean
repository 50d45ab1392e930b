import FrameLink.Text.Decimal

/-!
Number literals of JSON text, and what a quick reader makes of them. A literal is an optional
minus, an integer part (`0`, or digits with no leading zero), an optional fraction and an
optional signed exponent.

An integer literal that fits is an integer: up to `2 ^ 64 - 1` when not negative, down to
`-2 ^ 63` when negative. Every other literal, `-0` included, is a 64-bit float read the quick
way: the leading digits are taken into a 64-bit significand while each fits, integer digits past
them count as powers of ten, fraction digits past them are dropped, and the significand is then
scaled by one rounded power of ten (`Decimal.quickBits64`). A float past the largest finite one
is refused, and so is an exponent past the largest 32-bit integer unless the value is zero or
the exponent negative, which make a zero.
-/

namespace FrameLink

/-- A number literal split into its parts: the sign, the digits before and after the point, and the
exponent as its sign (`true` for negative) and digits. -/
structure Literal where
  negative : Bool
  whole : List Nat
  fraction : Option (List Nat)
  exponent : Option (Bool × List Nat)
deriving DecidableEq, Repr

inductive Reading where
  /-- A natural number below `2 ^ 64`. -/
  | natural (n : Nat)
  /-- The integer `-n`, for `1 ≤ n ≤ 2 ^ 63`. -/
  | negative (n : Nat)
  /-- A 64-bit float, by its bits. -/
  | double (bits : Nat)
  | outOfRange
deriving DecidableEq, Repr

namespace Literal

def digitOf? (c : Char) : Option Nat := if c.isDigit then some (c.toNat - 48) else none

def digitRun : List Char → List Nat × List Char
  | [] => ([], [])
  | c :: cs =>
    match digitOf? c with
    | some d => let (ds, rest) := digitRun cs; (d :: ds, rest)
    | none => ([], c :: cs)

/-- The optional fraction at the front of `cs`: a point and at least one digit. -/
def fractionPart? : List Char → Option (Option (List Nat) × List Char)
  | '.' :: cs =>
    let (ds, rest) := digitRun cs
    if ds.isEmpty then none else some (some ds, rest)
  | cs => some (none, cs)

/-- The optional exponent at the front of `cs`: `e` or `E`, an optional sign, and at least one digit. -/
def exponentPart? : List Char → Option (Option (Bool × List Nat) × List Char)
  | c :: cs =>
    if c = 'e' ∨ c = 'E' then
      let (negative, cs) := match cs with
        | '-' :: r => (true, r)
        | '+' :: r => (false, r)
        | r => (false, r)
      let (ds, rest) := digitRun cs
      if ds.isEmpty then none else some (some (negative, ds), rest)
    else some (none, c :: cs)
  | [] => some (none, [])

def ofChars? (cs : List Char) : Option Literal :=
  let (negative, cs) := match cs with
    | '-' :: r => (true, r)
    | r => (false, r)
  let (whole, cs) := digitRun cs
  if whole.isEmpty ∨ (whole.head? = some 0 ∧ 1 < whole.length) then none
  else do
    let (fraction, cs) ← fractionPart? cs
    let (exponent, cs) ← exponentPart? cs
    if cs.isEmpty then some ⟨negative, whole, fraction, exponent⟩ else none

def wordMax : Nat := Nat.pow 2 64 - 1

def int32Max : Nat := Nat.pow 2 31 - 1

/-- Whether `s * 10 + d` would pass `bound`. -/
def passes (bound s d : Nat) : Bool := bound / 10 ≤ s && (bound / 10 < s || bound % 10 < d)

/-- Take digits into the significand `s` while each keeps it a 64-bit word: the significand and how
many digits were taken. -/
def absorb (s : Nat) : List Nat → Nat × Nat
  | [] => (s, 0)
  | d :: ds =>
    if passes wordMax s d then (s, 0)
    else
      let (s', n) := absorb (s * 10 + d) ds
      (s', n + 1)

/-- The value of exponent digits, or `none` once one takes it past the largest 32-bit integer. -/
def exponentValue? (ds : List Nat) : Option Nat :=
  ds.foldl (fun acc d => acc.bind fun e => if passes int32Max e d then none else some (e * 10 + d))
    (some 0)

def clampInt32 (v : Int) : Int := max (-(int32Max : Int) - 1) (min int32Max v)

/-- The float `± significand · 10 ^ exponent` read the quick way, or the refusal of a value past the
largest float. -/
def float (negative : Bool) (significand : Nat) (exponent : Int) : Reading :=
  match Decimal.quickBits64 negative significand exponent with
  | some bits => .double bits
  | none => .outOfRange

def reading (l : Literal) : Reading :=
  let (s, taken) := absorb 0 l.whole
  let surplus := l.whole.length - taken
  match l.fraction, l.exponent with
  | none, none =>
    if surplus ≠ 0 then float l.negative s surplus
    else if !l.negative then .natural s
    else if 1 ≤ s ∧ s ≤ Nat.pow 2 63 then .negative s
    else .double (Nat.pow 2 63 + Decimal.nearestBits Decimal.binary64 s 1)
  | fraction, exponent =>
    let (s, after) := match fraction with
      | some ds => absorb s ds
      | none => (s, 0)
    let start : Int := (surplus : Int) - after
    match exponent with
    | none => float l.negative s start
    | some (negativeExponent, ds) =>
      match exponentValue? ds with
      | some e => float l.negative s (clampInt32 (if negativeExponent then start - e else start + e))
      | none =>
        if s ≠ 0 ∧ !negativeExponent then .outOfRange
        else .double (if l.negative then Nat.pow 2 63 else 0)

end Literal

/-- The bits of the 64-bit float nearest to an integer. -/
def Decimal.integerBits (i : Int) : Nat :=
  (if i < 0 then Nat.pow 2 63 else 0) + Decimal.nearestBits Decimal.binary64 i.natAbs 1

end FrameLink
