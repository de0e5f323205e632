import Stagecraft.Number.Decimal

/-!
# Moments in settings files

A day, a day with a time or a time alone may stand where a value stands. No setting uses one, so
only its form and whether there is such a day matter.
-/

namespace Stagecraft

namespace Toml

namespace Moment

/-- Two digits for a number within bounds. -/
def twoDigits? (low high : Nat) : List Char → Option (Nat × List Char)
  | a :: b :: rest =>
    let n := Numeral.digitsValue [a, b]
    if a.isDigit && b.isDigit && low ≤ n && n ≤ high then some (n, rest) else none
  | _ => none

def after? (c : Char) : List Char → Option (List Char)
  | [] => none
  | d :: rest => if d = c then some rest else none

/-- A fraction of a second, if there is one, is skipped. -/
def skipFraction (cs : List Char) : List Char :=
  match cs with
  | '.' :: more =>
    let (ds, rest) := Numeral.takeDigits more
    if ds.isEmpty then cs else rest
  | _ => cs

/-- The rest after a time of day. -/
def clock? (cs : List Char) : Option (List Char) := do
  let (_, cs) ← twoDigits? 0 23 cs
  let (_, cs) ← twoDigits? 0 59 (← after? ':' cs)
  let (_, cs) ← twoDigits? 0 59 (← after? ':' cs)
  return skipFraction cs

/-- The rest after hours and minutes. -/
def hoursAndMinutes? (cs : List Char) : Option (List Char) := do
  let (_, cs) ← twoDigits? 0 23 cs
  let (_, cs) ← twoDigits? 0 59 (← after? ':' cs)
  return cs

/-- An offset from universal time, if there is one, is skipped. -/
def skipOffset (cs : List Char) : List Char :=
  match cs with
  | [] => []
  | c :: rest =>
    if c = 'Z' || c = 'z' then rest
    else if c = '+' || c = '-' then (hoursAndMinutes? rest).getD cs
    else cs

/-- A time after a day, if there is one, is skipped. -/
def skipClock (cs : List Char) : List Char :=
  match cs with
  | [] => []
  | c :: rest =>
    if c = 'T' || c = 't' || c = ' ' then ((clock? rest).map skipOffset).getD cs else cs

/-- Leap years are divisible by four; of the full centuries only every fourth counts. -/
def isLeap (year : Nat) : Bool := year % 4 = 0 && (year % 100 ≠ 0 || year % 400 = 0)

def daysIn (year month : Nat) : Nat :=
  if month = 2 then (if isLeap year then 29 else 28)
  else if [4, 6, 9, 11].contains month then 30
  else 31

/-- A day, with a time or without: is there such a day, and what follows. -/
def day? (cs : List Char) : Option (Bool × List Char) := do
  let (century, cs) ← twoDigits? 0 99 cs
  let (year, cs) ← twoDigits? 0 99 cs
  let (month, cs) ← twoDigits? 1 12 (← after? '-' cs)
  let (day, cs) ← twoDigits? 1 31 (← after? '-' cs)
  let year := 100 * century + year
  return (1 ≤ year && day ≤ daysIn year month, skipClock cs)

end Moment

end Toml

end Stagecraft
