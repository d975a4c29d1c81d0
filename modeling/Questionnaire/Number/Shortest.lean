/-
# Shortest decimal texts

The decimal text of a double is the one with the fewest digits that rounds back
to it; of several with as few digits it is the one nearest to the value. The
decimals that round back form an interval around the value, which contains its
ends exactly when the mantissa is even. On the grid of decimals with a given
number of digits only the two neighbours of the value need to be looked at.
-/

import Questionnaire.Number.Double

namespace Questionnaire.Double

/-- A decimal: a whole number times a power of ten. -/
structure Scientific where
  /-- The digits read as one whole number. -/
  digits : Nat
  /-- The power of ten. -/
  exponent : Int
  deriving Repr, DecidableEq

/-- A decimal as a ratio of natural numbers. -/
def Scientific.toRatio (decimal : Scientific) : Nat × Nat :=
  if decimal.exponent < 0 then (decimal.digits, Nat.pow 10 decimal.exponent.natAbs)
  else (decimal.digits * Nat.pow 10 decimal.exponent.natAbs, 1)

/-- Whether a decimal rounds to the given magnitude. -/
def reads (value : Double) (decimal : Scientific) : Bool :=
  let (top, bottom) := decimal.toRatio
  match ofRatio? top bottom with
  | none => false
  | some rounded =>
    let (first, second) := rounded.toRatio
    let (first', second') := value.toRatio
    first * second' == first' * second

/-- The number of decimal digits before the point of a positive ratio: the least
`n` for which the ratio is below `10 ^ n`. -/
def decimalPoint (top bottom : Nat) : Int :=
  let below (n : Int) : Bool :=
    if n < 0 then top * Nat.pow 10 n.natAbs < bottom else top < bottom * Nat.pow 10 n.natAbs
  let guess : Int := ((top.log2 : Int) - (bottom.log2 : Int)) * 30103 / 100000 - 1
  if below guess then guess
  else if below (guess + 1) then guess + 1
  else if below (guess + 2) then guess + 2
  else guess + 3

/-- The decimal on the grid of the given power of ten that is nearest to the
ratio and rounds back to the value, if one of its two neighbours does. -/
def nearestOnGrid? (value : Double) (top bottom : Nat) (exponent : Int) : Option Scientific :=
  let (scaledTop, scaledBottom) :=
    if exponent < 0 then (top * Nat.pow 10 exponent.natAbs, bottom)
    else (top, bottom * Nat.pow 10 exponent.natAbs)
  let lower : Scientific := ⟨scaledTop / scaledBottom, exponent⟩
  let upper : Scientific := ⟨scaledTop / scaledBottom + 1, exponent⟩
  let remainder := scaledTop % scaledBottom
  match value.reads lower, value.reads upper with
  | false, false => none
  | true, false => some lower
  | false, true => some upper
  | true, true =>
    if 2 * remainder < scaledBottom then some lower
    else if scaledBottom < 2 * remainder then some upper
    else if lower.digits % 2 = 0 then some lower
    else some upper

/-- The first hit on the grids with ever more digits. -/
def searchGrids (value : Double) (top bottom : Nat) (point : Int) (digits : Nat) :
    Nat → Scientific
  | 0 => ⟨0, 0⟩
  | remaining + 1 =>
    match nearestOnGrid? value top bottom (point - digits) with
    | some decimal => decimal
    | none => searchGrids value top bottom point (digits + 1) remaining

/-- The shortest decimal that reads back as a positive magnitude. Seventeen
digits always suffice. -/
def shortest (value : Double) : Scientific :=
  let (top, bottom) := value.toRatio
  searchGrids value top bottom (decimalPoint top bottom) 1 17

/-- Drop factors of ten from the digits into the exponent, at most the given
number of times. -/
def Scientific.dropZeros (decimal : Scientific) : Nat → Scientific
  | 0 => decimal
  | remaining + 1 =>
    if decimal.digits % 10 = 0 && decimal.digits != 0 then
      Scientific.dropZeros ⟨decimal.digits / 10, decimal.exponent + 1⟩ remaining
    else decimal

/-- The text of a magnitude: positional with a decimal point when the point
stands at most sixteen digits to the right or at most four zeros to the left of
the first digit, and with an exponent otherwise. -/
def render (value : Double) : String :=
  if value.mantissa = 0 then "0.0"
  else
    let decimal := value.shortest.dropZeros 17
    let digits := (toString decimal.digits).toList
    let count : Int := digits.length
    let point := count + decimal.exponent
    let zeros (n : Int) : List Char := List.replicate n.toNat '0'
    if 0 ≤ decimal.exponent ∧ point ≤ 16 then
      String.ofList (digits ++ zeros decimal.exponent ++ ['.', '0'])
    else if 0 < point ∧ point ≤ 16 then
      String.ofList (digits.take point.toNat ++ '.' :: digits.drop point.toNat)
    else if -5 < point ∧ point ≤ 0 then
      String.ofList ('0' :: '.' :: zeros (-point) ++ digits)
    else
      let exponentText := 'e' :: (toString (point - 1)).toList
      match digits with
      | [] => ""
      | [digit] => String.ofList (digit :: exponentText)
      | digit :: rest => String.ofList (digit :: '.' :: rest ++ exponentText)

end Questionnaire.Double
