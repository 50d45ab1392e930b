/-!
Decimal numbers read into IEEE-754 binary formats: the value `m · 10 ^ e` goes to the nearest
number of the format, a tie to the one with an even significand; values past the largest finite
number become infinite, and the sign is kept apart. Everything is computed with exact natural
numbers, so the result is correctly rounded for every input.
-/

namespace FrameLink.Decimal

/-- A binary interchange format: significand precision (hidden bit counted), exponent bias, and the
all-ones exponent field. -/
structure BinaryFormat where
  precision : Nat
  bias : Nat
  exponentMax : Nat

def binary64 : BinaryFormat := ⟨53, 1023, 2047⟩

def binary32 : BinaryFormat := ⟨24, 127, 255⟩

def bitLength (n : Nat) : Nat := (Nat.toDigits 2 n).length

/-- `a / b` rounded to the nearest natural number, a tie to the even one. -/
def roundHalfEven (a b : Nat) : Nat :=
  let q := a / b
  let r := a % b
  if b < 2 * r then q + 1
  else if 2 * r < b then q
  else q + q % 2

/-- `num / den` times `2 ^ (-shift)`, rounded to the nearest, a tie to even. -/
def scaled (num den : Nat) (shift : Int) : Nat :=
  if 0 ≤ shift then roundHalfEven num (den * Nat.pow 2 shift.toNat)
  else roundHalfEven (num * Nat.pow 2 (-shift).toNat) den

/-- The integer part of `num / den` times `2 ^ (-shift)`. -/
def scaledFloor (num den : Nat) (shift : Int) : Nat :=
  if 0 ≤ shift then num / (den * Nat.pow 2 shift.toNat)
  else num * Nat.pow 2 (-shift).toNat / den

/-- The bits, sign apart, of the number of format `f` nearest to `num / den`. -/
def nearestBits (f : BinaryFormat) (num den : Nat) : Nat :=
  if num = 0 ∨ den = 0 then 0
  else
    let p := f.precision
    let minShift : Int := 2 - (f.bias : Int) - p
    let guess : Int := (bitLength num : Int) - bitLength den - p
    let shift := if Nat.pow 2 p ≤ scaledFloor num den guess then guess + 1 else guess
    let shift := max shift minShift
    let sig := scaled num den shift
    let (sig, shift) := if sig = Nat.pow 2 p then (Nat.pow 2 (p - 1), shift + 1) else (sig, shift)
    if sig < Nat.pow 2 (p - 1) then sig
    else
      let field := shift + (p - 1) + f.bias
      if (f.exponentMax : Int) ≤ field then f.exponentMax * Nat.pow 2 (p - 1)
      else field.toNat * Nat.pow 2 (p - 1) + (sig - Nat.pow 2 (p - 1))

/-- The bits of the 32-bit number nearest to a 64-bit one; infinities and NaNs keep their kind and
sign, a NaN its leading payload bits. -/
def binary64ToBinary32 (bits : Nat) : Nat :=
  let sign : Nat := if Nat.pow 2 63 ≤ bits then Nat.pow 2 31 else 0
  let field : Nat := (bits / Nat.pow 2 52) % Nat.pow 2 11
  let fraction : Nat := bits % Nat.pow 2 52
  if field = 2047 then
    if fraction = 0 then sign + 255 * Nat.pow 2 23
    else sign + 255 * Nat.pow 2 23 + Nat.pow 2 22 + (fraction / Nat.pow 2 29) % Nat.pow 2 22
  else
    -- value = sig · 2 ^ (exp), with the hidden bit for normal numbers
    let sig : Nat := if field = 0 then fraction else fraction + Nat.pow 2 52
    let exp : Int := (if field = 0 then 1 else (field : Int)) - 1075
    if sig = 0 then sign
    else if 0 ≤ exp then sign + nearestBits binary32 (sig * Nat.pow 2 exp.toNat) 1
    else sign + nearestBits binary32 sig (Nat.pow 2 (-exp).toNat)

def fraction64 (bits : Nat) : Nat × Nat :=
  let field : Nat := (bits / Nat.pow 2 52) % Nat.pow 2 11
  let fraction : Nat := bits % Nat.pow 2 52
  let sig : Nat := if field = 0 then fraction else fraction + Nat.pow 2 52
  let exp : Int := (if field = 0 then 1 else (field : Int)) - 1075
  if 0 ≤ exp then (sig * Nat.pow 2 exp.toNat, 1) else (sig, Nat.pow 2 (-exp).toNat)

def isInfinite64 (bits : Nat) : Bool := bits % Nat.pow 2 63 = 2047 * Nat.pow 2 52

def mul64 (a b : Nat) : Nat :=
  if isInfinite64 a || isInfinite64 b then 2047 * Nat.pow 2 52
  else
    let (na, da) := fraction64 a
    let (nb, db) := fraction64 b
    nearestBits binary64 (na * nb) (da * db)

def div64 (a b : Nat) : Nat :=
  let (na, da) := fraction64 a
  let (nb, db) := fraction64 b
  nearestBits binary64 (na * db) (da * nb)

/-- The powers of ten up to `10 ^ 308` that the quick reading scales with, each rounded. -/
def powerOfTen (k : Nat) : Nat := nearestBits binary64 (Nat.pow 10 k) 1

/-- Scale 64-bit bits by `10 ^ exponent` with one rounded multiplication or division by a rounded
power of ten; below `-308`, divide by `10 ^ 308` first (`fuel` bounds how often). -/
def scaleByTen : Nat → Nat → Int → Option Nat
  | 0, f, _ => some f
  | fuel + 1, f, exponent =>
    if exponent.natAbs ≤ 308 then
      if 0 ≤ exponent then
        let g := mul64 f (powerOfTen exponent.toNat)
        if isInfinite64 g then none else some g
      else some (div64 f (powerOfTen exponent.natAbs))
    else if f = 0 then some f
    else if 0 ≤ exponent then none
    else scaleByTen fuel (div64 f (powerOfTen 308)) (exponent + 308)

/-- The 64-bit bits of `± significand · 10 ^ exponent` read the quick way, with two roundings, so
one unit in the last place from the nearest; `none` past the largest finite number. -/
def quickBits64 (negative : Bool) (significand : Nat) (exponent : Int) : Option Nat :=
  (scaleByTen (exponent.natAbs / 308 + 2) (nearestBits binary64 significand 1) exponent).map
    fun magnitude => if negative then Nat.pow 2 63 + magnitude else magnitude

end FrameLink.Decimal
