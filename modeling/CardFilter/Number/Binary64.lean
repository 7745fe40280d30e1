/-!
# Binary64 numbers

A number is its 64-bit word: one sign bit, eleven exponent bits, fifty-two fraction bits.  A finite
number is `significand * 2 ^ scale` units of `2 ^ (-1074)`, so every operation here is exact
arithmetic on natural numbers followed by one rounding to nearest, ties to even.

No arithmetic of the machine is used, and none of its laws is assumed.
-/

namespace CardFilter

/-- A binary64 number, held as its word. -/
structure Binary64 where
  word : UInt64
deriving DecidableEq, Repr, Inhabited

namespace Binary64

/-- The word of positive infinity; every smaller word is a finite number that is not negative. -/
def infinityWord : Nat := 2047 * Nat.pow 2 52

def ofSignedWord (negative : Bool) (magnitude : Nat) : Binary64 :=
  ⟨UInt64.ofNat ((if negative then Nat.pow 2 63 else 0) + magnitude)⟩

def zero : Binary64 := ofSignedWord false 0

def infinity (negative : Bool) : Binary64 := ofSignedWord negative infinityWord

/-- The quiet number that is no number. -/
def nan : Binary64 := ofSignedWord false (infinityWord + Nat.pow 2 51)

def isNegative (x : Binary64) : Bool := Nat.pow 2 63 ≤ x.word.toNat

def exponentField (x : Binary64) : Nat := x.word.toNat / Nat.pow 2 52 % Nat.pow 2 11

def fraction (x : Binary64) : Nat := x.word.toNat % Nat.pow 2 52

def isFinite (x : Binary64) : Bool := x.exponentField != 2047

def isNaN (x : Binary64) : Bool := x.exponentField == 2047 && x.fraction != 0

def significand (x : Binary64) : Nat :=
  if x.exponentField = 0 then x.fraction else Nat.pow 2 52 + x.fraction

def scale (x : Binary64) : Nat := x.exponentField - 1

/-- The magnitude of a finite number, in units of `2 ^ (-1074)`. -/
def units (x : Binary64) : Nat := x.significand * Nat.pow 2 x.scale

/-- How many units make one. -/
def unitsPerOne : Nat := Nat.pow 2 1074

/-- The natural number nearest to `num / den`; a half goes to the even neighbour. -/
def divNearestEven (num den : Nat) : Nat :=
  let quotient := num / den
  let twice := 2 * (num % den)
  if twice < den ∨ (twice = den ∧ quotient % 2 = 0) then quotient else quotient + 1

/-- The number nearest to `num / den`, ties to even.  Beyond the largest finite number it is
infinite; the word of the result grows by one with each step, across powers of two as well. -/
def ofRatio (negative : Bool) (num den : Nat) : Binary64 :=
  if num = 0 then ofSignedWord negative 0 else
    let scaled := num * unitsPerOne
    let scale := Nat.log2 (scaled / den) - 52
    let rounded := divNearestEven scaled (den * Nat.pow 2 scale)
    ofSignedWord negative (min (scale * Nat.pow 2 52 + rounded) infinityWord)

def ofInt (value : Int) : Binary64 :=
  ofRatio (value < 0) value.natAbs 1

/-- The product of two finite numbers, rounded once. -/
def mul (x y : Binary64) : Binary64 :=
  ofRatio (x.isNegative != y.isNegative) (x.units * y.units) (unitsPerOne * unitsPerOne)

/-- The quotient of a finite number by a finite number other than zero, rounded once. -/
def div (x y : Binary64) : Binary64 :=
  ofRatio (x.isNegative != y.isNegative) x.units y.units

def neg (x : Binary64) : Binary64 :=
  ofSignedWord (!x.isNegative) (x.word.toNat % Nat.pow 2 63)

def isZero (x : Binary64) : Bool := x.word.toNat % Nat.pow 2 63 == 0

/-- The whole part, cut to the range of an unsigned 64-bit word; no number counts as zero. -/
def toWord (x : Binary64) : Nat :=
  if x.isNaN || x.isNegative then 0
  else if x.isFinite then min (x.units / unitsPerOne) (UInt64.size - 1)
  else UInt64.size - 1

end Binary64

end CardFilter
