/-
# Rounding to double precision

A finite magnitude of the double format is a whole number below `2 ^ 53` times a
power of two not below `2 ^ (-1074)`, and smaller than `2 ^ 1024`. A ratio of two
natural numbers is rounded to the nearest of them, a tie going to the even one.
All arithmetic is on natural numbers and exact; nothing is said about signs,
infinities or signalling.
-/

namespace Questionnaire

/-- A magnitude of the double format: `mantissa * 2 ^ exponent`. -/
structure Double where
  /-- The whole-number part of the significand. -/
  mantissa : Nat
  /-- The power of two. -/
  exponent : Int
  deriving Repr, DecidableEq

namespace Double

/-- The smallest exponent of the format. -/
def leastExponent : Int := -1074

/-- Zero in the format. -/
def zero : Double := ⟨0, leastExponent⟩

/-- The quotient rounded to the nearest whole number, a tie to the even one. -/
def roundQuotient (numerator denominator : Nat) : Nat :=
  let quotient := numerator / denominator
  let remainder := numerator % denominator
  if 2 * remainder < denominator then quotient
  else if denominator < 2 * remainder then quotient + 1
  else if quotient % 2 = 0 then quotient
  else quotient + 1

/-- The ratio `numerator / (denominator * 2 ^ exponent)` as a ratio of natural
numbers. -/
def scaledRatio (numerator denominator : Nat) (exponent : Int) : Nat × Nat :=
  if exponent < 0 then (numerator * Nat.pow 2 exponent.natAbs, denominator)
  else (numerator, denominator * Nat.pow 2 exponent.natAbs)

/-- The exponent at which a ratio has a significand of at most 53 bits: the
smallest one for which the whole part of the scaled ratio is below `2 ^ 53`. -/
def fittingExponent (numerator denominator : Nat) : Int :=
  let guess := max ((numerator.log2 : Int) - (denominator.log2 : Int) - 53) leastExponent
  let (top, bottom) := scaledRatio numerator denominator guess
  if top / bottom < Nat.pow 2 53 then guess else guess + 1

/-- Whether a magnitude is below `2 ^ 1024`, the first one out of range. -/
def inRange (value : Double) : Bool :=
  if value.exponent < 0 then value.mantissa < Nat.pow 2 1024 * Nat.pow 2 value.exponent.natAbs
  else value.mantissa * Nat.pow 2 value.exponent.natAbs < Nat.pow 2 1024

/-- Round a ratio to the nearest magnitude of the format. There is none when the
rounded value is out of range. -/
def ofRatio? (numerator denominator : Nat) : Option Double :=
  let exponent := fittingExponent numerator denominator
  let (top, bottom) := scaledRatio numerator denominator exponent
  let rounded : Double := ⟨roundQuotient top bottom, exponent⟩
  if rounded.inRange then some rounded else none

/-- Round a whole number times a power of ten. -/
def ofDecimal? (digits : Nat) (exponent : Int) : Option Double :=
  if exponent < 0 then ofRatio? digits (Nat.pow 10 exponent.natAbs)
  else ofRatio? (digits * Nat.pow 10 exponent.natAbs) 1

/-- The magnitude as a ratio of natural numbers. -/
def toRatio (value : Double) : Nat × Nat :=
  if value.exponent < 0 then (value.mantissa, Nat.pow 2 value.exponent.natAbs)
  else (value.mantissa * Nat.pow 2 value.exponent.natAbs, 1)

/-- The rounded product of two magnitudes. -/
def mul? (first second : Double) : Option Double :=
  let (top, bottom) := first.toRatio
  let (top', bottom') := second.toRatio
  ofRatio? (top * top') (bottom * bottom')

/-- The rounded quotient of two magnitudes. -/
def div? (first second : Double) : Option Double :=
  let (top, bottom) := first.toRatio
  let (top', bottom') := second.toRatio
  ofRatio? (top * bottom') (bottom * top')

end Double

end Questionnaire
