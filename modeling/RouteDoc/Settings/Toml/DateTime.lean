import RouteDoc.Settings.Toml.Scalar

/-!
Dates and times in TOML: a date, a time of day, or both, with or without the distance from universal
time. They are read as texts in one form, whichever way they were written: `T` between date and time,
`Z` for universal time, and the fraction of a second up to nine places without zeros at its end.
-/

namespace RouteDoc.Toml

/-- Reads two digits whose value lies between two numbers. -/
def readPair (least most : Nat) : List Char → Option (List Char × List Char)
  | tens :: units :: rest =>
    let value := valueOf 10 [tens, units]
    if tens.isDigit && units.isDigit && least ≤ value && value ≤ most then
      some ([tens, units], rest)
    else none
  | _ => none

/-- The number of days in a month. -/
def daysIn (year month : Nat) : Nat :=
  if month = 2 then
    if year % 4 = 0 ∧ (year % 100 ≠ 0 ∨ year % 400 = 0) then 29 else 28
  else if month = 4 ∨ month = 6 ∨ month = 9 ∨ month = 11 then 30
  else 31

/-- Reads a date: four digits for the year, two for the month and two for a day of that month. -/
def readDate (cs : List Char) : Option (List Char × List Char) :=
  let year := cs.take 4
  if year.length = 4 && year.all Char.isDigit then
    match cs.drop 4 with
    | '-' :: afterYear => do
      let (month, afterMonth) ← readPair 1 12 afterYear
      match afterMonth with
      | '-' :: rest =>
        let (day, last) ← readPair 1 (daysIn (valueOf 10 year) (valueOf 10 month)) rest
        return (year ++ '-' :: month ++ '-' :: day, last)
      | _ => none
    | _ => none
  else none

/-- The digits of a fraction up to the ninth, after a point and without zeros at the end; nothing if
only zeros are left. -/
def fraction (digits : List Char) : List Char :=
  match (digits.take 9).reverse.dropWhile (· = '0') with
  | [] => []
  | kept => '.' :: kept.reverse

/-- Reads the fraction of a second, if there is one. -/
def readFraction (cs : List Char) : List Char × List Char :=
  match cs with
  | '.' :: rest =>
    match rest.takeWhile Char.isDigit with
    | [] => ([], cs)
    | digits => (fraction digits, rest.dropWhile Char.isDigit)
  | _ => ([], cs)

/-- Reads a time of day. The sixtieth second is that of a leap second. -/
def readTime (cs : List Char) : Option (List Char × List Char) := do
  let (hour, afterHour) ← readPair 0 23 cs
  match afterHour with
  | ':' :: rest =>
    let (minute, afterMinute) ← readPair 0 59 rest
    match afterMinute with
    | ':' :: rest =>
      let (second, afterSecond) ← readPair 0 60 rest
      let (part, last) := readFraction afterSecond
      return (hour ++ ':' :: minute ++ ':' :: second ++ part, last)
    | _ => none
  | _ => none

/-- Reads hours and minutes of a distance from universal time, after its sign. No distance has no
direction. -/
def readDistance (mark : Char) (cs : List Char) : Option (List Char × List Char) := do
  let (hours, afterHours) ← readPair 0 23 cs
  match afterHours with
  | ':' :: rest =>
    let (minutes, last) ← readPair 0 59 rest
    let shown := if valueOf 10 (hours ++ minutes) = 0 then '+' else mark
    return (shown :: hours ++ ':' :: minutes, last)
  | _ => none

/-- Reads a distance from universal time, if there is one. -/
def readOffset (cs : List Char) : Option (List Char × List Char) :=
  match cs with
  | 'Z' :: rest | 'z' :: rest => some (['Z'], rest)
  | '+' :: rest => readDistance '+' rest
  | '-' :: rest => readDistance '-' rest
  | _ => some ([], cs)

/-- Reads a time of day after a date, if there is one. -/
def readTimeAfter (date cs : List Char) : Option (List Char × List Char) :=
  match cs with
  | 'T' :: rest | 't' :: rest | ' ' :: rest =>
    match readTime rest with
    | none => some (date, cs)
    | some (time, afterTime) => do
      let (offset, last) ← readOffset afterTime
      return (date ++ 'T' :: time ++ offset, last)
  | _ => some (date, cs)

/-- Reads a date, a time of day, or both. -/
def readDateTime (cs : List Char) : Option (Scalar × List Char) :=
  let read := match readDate cs with
    | some (date, rest) => readTimeAfter date rest
    | none => readTime cs
  read.map fun (content, rest) => (.text (String.ofList content), rest)

end RouteDoc.Toml
