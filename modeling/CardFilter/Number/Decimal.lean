import CardFilter.Number.Binary64

/-!
# Decimal text of binary64 numbers

`Decimal` is a natural coefficient times a power of ten.  Reading goes to the nearest binary64
number; `Decimal.quick` is the coarser reading that rounds at each step.  Writing takes the fewest
digits that read back and, of those, the ones nearest to the number; what a style decides is the
choice between two equally near ones, where positional writing ends, and how a whole number is
marked.
-/

namespace CardFilter

/-- The value `coefficient * 10 ^ exponent`. -/
structure Decimal where
  coefficient : Nat
  exponent : Int
deriving DecidableEq, Repr

namespace Decimal

def digitCount (value : Nat) : Nat := (Nat.toDigits 10 value).length

/-- The binary64 number nearest to the decimal, ties to even.  Beyond the exponents of the format
the answer is known without the power. -/
def toBinary64 (negative : Bool) (value : Decimal) : Binary64 :=
  let reach := value.exponent + digitCount value.coefficient
  if value.coefficient = 0 ∨ reach < -400 then Binary64.ofSignedWord negative 0
  else if 400 < reach then Binary64.infinity negative
  else if 0 ≤ value.exponent then
    Binary64.ofRatio negative (value.coefficient * Nat.pow 10 value.exponent.toNat) 1
  else Binary64.ofRatio negative value.coefficient (Nat.pow 10 (-value.exponent).toNat)

/-- The largest power of ten that is a finite number. -/
def topPower : Nat := 308

def powerOfTen (exponent : Nat) : Binary64 := Binary64.ofRatio false (Nat.pow 10 exponent) 1

/-- Divides by powers of ten from the top one down, rounding each time. -/
def descend : Nat → Binary64 → Nat → Binary64
  | 0, value, _ => value
  | steps + 1, value, exponent =>
    if exponent ≤ topPower then value.div (powerOfTen exponent)
    else if value.isZero then value
    else descend steps (value.div (powerOfTen topPower)) (exponent - topPower)

/-- The coarse reading: the coefficient is rounded first, then multiplied or divided by the nearest
power of ten, and rounded again.  A value out of range has no reading. -/
def quick (value : Decimal) : Option Binary64 :=
  let start := Binary64.ofRatio false value.coefficient 1
  if value.exponent < 0 then some (descend 4 start (-value.exponent).toNat)
  else if value.exponent ≤ topPower then
    let product := start.mul (powerOfTen value.exponent.toNat)
    if product.isFinite then some product else none
  else if start.isZero then some start
  else none

end Decimal

/-- Which of two equally near shortest decimals is taken. -/
inductive Tie
  | toEven
  | up
deriving DecidableEq, Repr

/-- How numbers are laid out as text. -/
structure NumberStyle where
  tie : Tie
  /-- Least and greatest exponent of the leading digit written positionally, if there are bounds. -/
  positional : Option (Int × Int)
  /-- What follows a whole number that is written positionally. -/
  wholeMark : List Char

namespace Binary64

/-- Exponent of the leading decimal digit of a finite number other than zero. -/
def leadingExponent (x : Binary64) : Int :=
  if unitsPerOne ≤ x.units then Decimal.digitCount (x.units / unitsPerOne) - 1
  else -(Decimal.digitCount (unitsPerOne / x.units))

/-- Four times the distance from the number to the lower and upper end of the interval that rounds
to it, in units.  The lower end is nearer just above a power of two. -/
def halfGaps (x : Binary64) : Nat × Nat :=
  let gap := Nat.pow 2 x.scale
  (if x.significand = Nat.pow 2 52 ∧ 0 < x.scale then gap else 2 * gap, 2 * gap)

/-- Whether the decimal rounds to the number; the ends of its interval belong to it when its
significand is even. -/
def readsBack (x : Binary64) (value : Decimal) : Bool :=
  let (below, above) := x.halfGaps
  let up := Nat.pow 10 value.exponent.toNat
  let down := Nat.pow 10 (-value.exponent).toNat
  let candidate := 4 * value.coefficient * up * unitsPerOne
  let low := (4 * x.units - below) * down
  let high := (4 * x.units + above) * down
  if x.significand % 2 = 0 then low ≤ candidate && candidate ≤ high
  else low < candidate && candidate < high

/-- The better of the two neighbours on the grid of `10 ^ exponent`, if one reads back. -/
def onGrid (tie : Tie) (x : Binary64) (exponent : Int) : Option Decimal :=
  let up := Nat.pow 10 exponent.toNat
  let down := Nat.pow 10 (-exponent).toNat
  let num := x.units * down
  let den := unitsPerOne * up
  let floor : Decimal := ⟨num / den, exponent⟩
  let ceiling : Decimal := ⟨num / den + 1, exponent⟩
  let twice := 2 * (num % den)
  let preferFloor :=
    twice < den || (twice == den && tie == .toEven && floor.coefficient % 2 == 0)
  match x.readsBack floor && floor.coefficient != 0, x.readsBack ceiling with
  | true, true => some (if preferFloor then floor else ceiling)
  | true, false => some floor
  | false, true => some ceiling
  | false, false => none

/-- The decimal with the fewest digits that reads back as the number, nearest to it among those.
Seventeen digits always suffice.  Just below a power of ten the ceiling on the coarsest grid is ten
steps, which is one step of the next. -/
def shortest (tie : Tie) (x : Binary64) : Decimal :=
  let lead := x.leadingExponent
  match (List.range 17).findSome? fun (count : Nat) ↦ x.onGrid tie (lead - (count : Int)) with
  | some value => if value.coefficient = 10 then ⟨1, value.exponent + 1⟩ else value
  | none => ⟨0, 0⟩

end Binary64

namespace NumberStyle

def exponentText (exponent : Int) : List Char :=
  (if exponent < 0 then '-' else '+') :: Nat.toDigits 10 exponent.natAbs

/-- Digits with a point after the leading one and the exponent behind. -/
def scientific (digits : List Char) (lead : Int) : List Char :=
  digits.take 1 ++ (if digits.length ≤ 1 then [] else '.' :: digits.drop 1) ++
    'e' :: exponentText lead

def positionalText (style : NumberStyle) (digits : List Char) (lead : Int) : List Char :=
  if lead < 0 then
    ['0', '.'] ++ List.replicate ((-lead).toNat - 1) '0' ++ digits
  else
    let whole := lead.toNat + 1
    if digits.length ≤ whole then
      digits ++ List.replicate (whole - digits.length) '0' ++ style.wholeMark
    else digits.take whole ++ '.' :: digits.drop whole

def magnitudeText (style : NumberStyle) (x : Binary64) : List Char :=
  if x.isZero then '0' :: style.wholeMark
  else
    let value := x.shortest style.tie
    let digits := Nat.toDigits 10 value.coefficient
    let lead := value.exponent + digits.length - 1
    match style.positional with
    | none => style.positionalText digits lead
    | some (least, greatest) =>
      if least ≤ lead ∧ lead ≤ greatest then style.positionalText digits lead
      else scientific digits lead

/-- The text of a number; the three that are not finite have words of their own. -/
def text (style : NumberStyle) (x : Binary64) : List Char :=
  if x.isNaN then "NaN".toList
  else
    let magnitude := if x.isFinite then style.magnitudeText x else "inf".toList
    if x.isNegative then '-' :: magnitude else magnitude

/-- Plain reading text: always positional, a whole number without a mark. -/
def plain : NumberStyle := ⟨.up, none, []⟩

end NumberStyle

end CardFilter
