import SelectQuery.Text.Basic
import SelectQuery.Toml.Text

namespace SelectQuery.Toml.Moment

def isLeapYear (year : Nat) : Bool := year % 4 == 0 && (year % 100 != 0 || year % 400 == 0)

def daysIn (year month : Nat) : Nat :=
  if month = 2 then if isLeapYear year then 29 else 28
  else if month ∈ [4, 6, 9, 11] then 30
  else 31

def two? (low high : Nat) : Reader (List Char)
  | a :: b :: cs =>
    let n := Text.ofDigits [a, b]
    if Text.isAsciiDigit a && Text.isAsciiDigit b && low ≤ n && n ≤ high then some ([a, b], cs)
    else none
  | _ => none

def mark? (c : Char) : List Char → Option (List Char)
  | [] => none
  | d :: cs => if d = c then some cs else none

def date? : Reader (List Char) := fun cs => do
  let year := cs.take 4
  if year.length != 4 || !year.all Text.isAsciiDigit then none
  let cs ← mark? '-' (cs.drop 4)
  let (month, cs) ← two? 1 12 cs
  let cs ← mark? '-' cs
  let (day, cs) ← two? 1 (daysIn (Text.ofDigits year) (Text.ofDigits month)) cs
  return (year ++ '-' :: month ++ '-' :: day, cs)

def trimmed (places : List Char) : List Char :=
  match ((places.take 9).reverse.dropWhile (· == '0')).reverse with
  | [] => []
  | places => '.' :: places

def places? : Reader (List Char)
  | '.' :: cs =>
    let places := cs.takeWhile Text.isAsciiDigit
    if places.isEmpty then none else some (trimmed places, cs.dropWhile Text.isAsciiDigit)
  | _ => none

def optional (read? : Reader (List Char)) (cs : List Char) : List Char × List Char :=
  (read? cs).getD ([], cs)

def time? : Reader (List Char) := fun cs => do
  let (hour, cs) ← two? 0 23 cs
  let cs ← mark? ':' cs
  let (minute, cs) ← two? 0 59 cs
  let cs ← mark? ':' cs
  let (second, cs) ← two? 0 60 cs
  let (places, cs) := optional places? cs
  return (hour ++ ':' :: minute ++ ':' :: second ++ places, cs)

def offset? : Reader (List Char)
  | [] => none
  | c :: cs =>
    if c = 'Z' || c = 'z' then some (['Z'], cs)
    else if c = '+' || c = '-' then do
      let (hour, cs) ← two? 0 23 cs
      let cs ← mark? ':' cs
      let (minute, cs) ← two? 0 59 cs
      let isZero := hour == ['0', '0'] && minute == ['0', '0']
      return ((if isZero then '+' else c) :: hour ++ ':' :: minute, cs)
    else none

def timeOfDay? : Reader (List Char)
  | [] => none
  | c :: cs =>
    if c = 'T' || c = 't' || c = ' ' then do
      let (time, cs) ← time? cs
      let (offset, cs) := optional offset? cs
      return ('T' :: time ++ offset, cs)
    else none

def dated? : Reader (List Char) := fun cs => do
  let (date, cs) ← date? cs
  let (time, cs) := optional timeOfDay? cs
  return (date ++ time, cs)

def read? : Reader String := fun cs => do
  let (text, cs) ← dated? cs <|> time? cs
  return (String.ofList text, cs)

end SelectQuery.Toml.Moment
