/-!
Signed decimal numerals of 128-bit integers: an optional `+` or `-`, then one or more ASCII
digits, with a value from `-2 ^ 127` to `2 ^ 127 - 1`. Leading zeros are allowed; blanks,
separators and other digits are not.
-/

namespace FrameLink.Numeral

/-- The least 128-bit integer is `-bound`, the greatest `bound - 1`. -/
def bound : Nat := Nat.pow 2 127

/-- The value of a run of ASCII digits, most significant first; a non-digit or an empty run has none. -/
def digits? (cs : List Char) : Option Nat :=
  if cs.isEmpty then none
  else cs.foldl (fun acc c => acc.bind fun n =>
    if '0' ≤ c ∧ c ≤ '9' then some (n * 10 + (c.toNat - 48)) else none) (some 0)

/-- The integer a numeral stands for, if the text is one and the integer has 128 bits. -/
def read? (s : String) : Option Int :=
  match s.toList with
  | '-' :: cs => (digits? cs).bind fun n => if n ≤ bound then some (-(n : Int)) else none
  | '+' :: cs => (digits? cs).bind fun n => if n < bound then some (n : Int) else none
  | cs => (digits? cs).bind fun n => if n < bound then some (n : Int) else none

example : read? "+5" = some 5 := by decide
example : read? "-0" = some 0 := by decide
example : read? "0005" = some 5 := by decide
example : read? " 5" = none := by decide
example : read? "+-1" = none := by decide
example : read? "1_0" = none := by decide
example : read? "" = none := by decide

end FrameLink.Numeral
