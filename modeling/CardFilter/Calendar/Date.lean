import CardFilter.Number.Literal

/-!
# Calendar dates

Days of the Gregorian calendar, extended to all years from 262143 before to 262142 after the year
zero.  A date has one text: the year with at least four digits, and with a sign when it lies
outside the first ten thousand years, then the month and the day with two digits each.
-/

namespace CardFilter

namespace Calendar

def leastYear : Int := -262143

def greatestYear : Int := 262142

/-- Every fourth year, but of the full centuries only every fourth. -/
def isLeap (year : Int) : Bool := year % 4 == 0 && (year % 100 != 0 || year % 400 == 0)

def daysInMonth (year : Int) (month : Nat) : Nat :=
  if month = 2 then (if isLeap year then 29 else 28)
  else if month = 4 ∨ month = 6 ∨ month = 9 ∨ month = 11 then 30
  else 31

/-- Whether the three numbers name a day. -/
def isDay (year : Int) (month day : Nat) : Bool :=
  leastYear ≤ year && year ≤ greatestYear && 1 ≤ month && month ≤ 12 && 1 ≤ day &&
    day ≤ daysInMonth year month

end Calendar

structure Date where
  year : Int
  month : Nat
  day : Nat
  named : Calendar.isDay year month day = true
deriving DecidableEq, Repr

namespace Date

def of? (year : Int) (month day : Nat) : Option Date :=
  if h : Calendar.isDay year month day = true then some ⟨year, month, day, h⟩ else none

/-- Decimal digits, filled up in front to the given width. -/
def padded (width value : Nat) : List Char :=
  let digits := Nat.toDigits 10 value
  List.replicate (width - digits.length) '0' ++ digits

def yearText (year : Int) : List Char :=
  if year < 0 then '-' :: padded 4 year.natAbs
  else if 9999 < year then '+' :: padded 4 year.natAbs
  else padded 4 year.natAbs

def chars (date : Date) : List Char :=
  yearText date.year ++ '-' :: padded 2 date.month ++ '-' :: padded 2 date.day

def text (date : Date) : String := String.ofList date.chars

end Date

end CardFilter
