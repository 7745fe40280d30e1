import CardFilter.Calendar.Date
import CardFilter.Text.Blank

/-!
# Texts that name a date

Three grammars.  A *plain date* is year, month and day.  A *local moment* adds a time of day after
`T`.  In both, a number may have white space before it and fewer digits than usual, and a year with
a sign may have any number of them.  An *absolute moment* has all its digits, nothing between its
parts but the marks, and a distance from universal time.
-/

namespace CardFilter.Calendar

/-- The number in a run of digits at the front, as long as it goes but no longer than `most`, and
what stands behind it. -/
def digits? (least most : Nat) (text : List Char) : Option (Nat × List Char) :=
  let run := (text.take most).takeWhile Literal.isDigit
  if run.length < least then none else some (Literal.natOfDigits run, text.drop run.length)

def mark? (mark : Char) : List Char → Option (List Char)
  | [] => none
  | c :: rest => if c = mark then some rest else none

/-- A number of one or two digits behind any white space. -/
def looseNumber? (text : List Char) : Option (Nat × List Char) := digits? 1 2 (Text.trimStart text)

/-- A year behind any white space: up to four digits, or a sign and any number of them. -/
def looseYear? (text : List Char) : Option (Int × List Char) :=
  match Text.trimStart text with
  | '-' :: rest => (digits? 1 rest.length rest).map fun (year, rest) ↦ (-(year : Int), rest)
  | '+' :: rest => (digits? 1 rest.length rest).map fun (year, rest) ↦ ((year : Int), rest)
  | rest => (digits? 1 4 rest).map fun (year, rest) ↦ ((year : Int), rest)

def looseDate? (text : List Char) : Option (Date × List Char) := do
  let (year, rest) ← looseYear? text
  let (month, rest) ← looseNumber? (← mark? '-' rest)
  let (day, rest) ← looseNumber? (← mark? '-' rest)
  (Date.of? year month day).map (·, rest)

/-- The last second of a day may be a leap second, and so may any other minute's. -/
def isTime (hour minute second : Nat) : Bool := hour ≤ 23 && minute ≤ 59 && second ≤ 60

/-- Digits behind a point, if there is one. -/
def fraction? : List Char → Option (List Char)
  | '.' :: rest => (digits? 1 rest.length rest).map (·.2)
  | rest => some rest

/-- Hour, minute and second with a fraction, each read alike; gives what stands behind. -/
def time? (number : List Char → Option (Nat × List Char)) (text : List Char) :
    Option (List Char) := do
  let (hour, rest) ← number text
  let (minute, rest) ← number (← mark? ':' rest)
  let (second, rest) ← number (← mark? ':' rest)
  if isTime hour minute second then fraction? rest else none

def localMoment? (text : List Char) : Option (Date × List Char) := do
  let (date, rest) ← looseDate? text
  let rest ← time? looseNumber? (← mark? 'T' rest)
  some (date, rest)

def exactDate? (text : List Char) : Option (Date × List Char) := do
  let (year, rest) ← digits? 4 4 text
  let (month, rest) ← digits? 2 2 (← mark? '-' rest)
  let (day, rest) ← digits? 2 2 (← mark? '-' rest)
  (Date.of? year month day).map (·, rest)

/-- The mark between date and time. -/
def between? : List Char → Option (List Char)
  | 'T' :: rest | 't' :: rest | ' ' :: rest => some rest
  | _ => none

def sign? : List Char → Option (List Char)
  | '+' :: rest | '-' :: rest | '\u2212' :: rest => some rest
  | _ => none

/-- The distance from universal time: `Z`, or less than a day of hours and minutes. -/
def offset? : List Char → Option (List Char)
  | 'Z' :: rest | 'z' :: rest => some rest
  | text => do
    let (hour, rest) ← digits? 2 2 (← sign? text)
    let (minute, rest) ← digits? 2 2 (← mark? ':' rest)
    if hour ≤ 23 ∧ minute ≤ 59 then some rest else none

def absoluteMoment? (text : List Char) : Option (Date × List Char) := do
  let (date, rest) ← exactDate? text
  let rest ← offset? (← time? (digits? 2 2) (← between? rest))
  some (date, rest)

/-- What a reader finds when nothing may stand behind it. -/
def whole? (read : List Char → Option (Date × List Char)) (text : List Char) : Option Date :=
  match read text with
  | some (date, []) => some date
  | _ => none

/-- The date that a text names, with white space around it or not. -/
def date? (text : String) : Option Date :=
  let body := Text.trim text.toList
  ((whole? looseDate? body).or (whole? absoluteMoment? body)).or (whole? localMoment? body)

def namesDate (text : String) : Bool := (date? text).isSome

end CardFilter.Calendar
