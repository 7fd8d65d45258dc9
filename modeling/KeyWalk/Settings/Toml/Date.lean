/-
Dates and times, as TOML writes them.

`Date.text? cs` reads a date, a time, or both with or without the distance from the common time,
and returns the form in which it is shown: `T` in the middle, a fraction without zeros at its end,
`Z` or a signed distance.

* A date is `YYYY-MM-DD` and a day of its month,
* a time is `HH:MM` or `HH:MM:SS`, the latter with or without a fraction, of which nine digits
  count; a minute may have a second 60,
* only a date with a time has a distance: `Z`, or hours and minutes behind a sign.
-/

namespace KeyWalk

namespace Date

/-- The next `n` digits as a number, with what follows; no more digits follow. -/
def readDigits (n : Nat) (cs : List Char) : Option (Nat × List Char) :=
  let digits := cs.takeWhile Char.isDigit
  if digits.length = n ∧ digits ≠ [] then
    some (Nat.ofDigitChars 10 digits 0, cs.drop n)
  else none

/-- The text behind a character. -/
def behind (c : Char) : List Char → Option (List Char)
  | d :: r => if c = d then some r else none
  | [] => none

/-- A year with a day more than the others. -/
def isLeap (year : Nat) : Bool := year % 4 == 0 && (year % 100 != 0 || year % 400 == 0)

/-- The number of days of a month. -/
def daysOf (year month : Nat) : Nat :=
  if month = 2 then if isLeap year then 29 else 28
  else if [4, 6, 9, 11].contains month then 30
  else 31

/-- A date, as it is written, with what follows. -/
def readDate (cs : List Char) : Option (List Char × List Char) := do
  let (year, r) ← readDigits 4 cs
  let (month, r) ← readDigits 2 (← behind '-' r)
  let (day, r) ← readDigits 2 (← behind '-' r)
  if 1 ≤ month ∧ month ≤ 12 ∧ 1 ≤ day ∧ day ≤ daysOf year month then
    return (cs.take 10, r)
  none

/-- The digits of a fraction that count: at most nine, no zero at the end, and at least one. -/
def fraction (digits : List Char) : List Char :=
  match ((digits.take 9).reverse.dropWhile (· = '0')).reverse with
  | [] => ['0']
  | ds => ds

/-- The seconds of a time behind its minutes, if there are any, with what follows. -/
def readSeconds (cs : List Char) : Option (List Char × List Char) :=
  match cs with
  | ':' :: r => do
    let (second, rest) ← readDigits 2 r
    if 60 < second then
      none
    let shown := ':' :: r.take 2
    match rest with
    | '.' :: rest =>
      let digits := rest.takeWhile Char.isDigit
      if digits = [] then
        none
      return (shown ++ '.' :: fraction digits, rest.drop digits.length)
    | rest => return (shown, rest)
  | cs => some ([], cs)

/-- A time, with what follows. -/
def readTime (cs : List Char) : Option (List Char × List Char) := do
  let (hour, r) ← readDigits 2 cs
  let (minute, r) ← readDigits 2 (← behind ':' r)
  if 23 < hour ∨ 59 < minute then
    none
  let (seconds, r) ← readSeconds r
  return (cs.take 5 ++ seconds, r)

/-- The distance from the common time behind a time, if there is one; nothing follows it. -/
def offset? (cs : List Char) : Option (List Char) :=
  match cs with
  | [] => some []
  | c :: r =>
    if c = 'Z' ∨ c = 'z' then if r = [] then some ['Z'] else none
    else if c = '+' ∨ c = '-' then do
      let (hours, rest) ← readDigits 2 r
      let (minutes, rest) ← readDigits 2 (← behind ':' rest)
      if 23 < hours ∨ 59 < minutes ∨ rest ≠ [] then
        none
      return (if hours = 0 ∧ minutes = 0 then '+' else c) :: r
    else none

/-- The shown form of a date, a time, or both. -/
def text? (cs : List Char) : Option (List Char) :=
  match readDate cs with
  | some (date, []) => some date
  | some (date, c :: r) =>
    if c = 'T' ∨ c = 't' ∨ c = ' ' then do
      let (time, rest) ← readTime r
      return date ++ 'T' :: time ++ (← offset? rest)
    else none
  | none => (readTime cs).bind fun p => if p.2 = [] then some p.1 else none

end Date

end KeyWalk
