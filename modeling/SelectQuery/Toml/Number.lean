import SelectQuery.Json.Basic
import SelectQuery.Text.Basic

namespace SelectQuery.Toml

/-- Digits without the underscores, of which one may stand between any two. -/
def digits? (isDigit : Char → Bool) : List Char → Option (List Char)
  | [] => none
  | [c] => if isDigit c then some [c] else none
  | c :: d :: cs =>
    if !isDigit c then none
    else if d = '_' then (digits? isDigit cs).map (c :: ·)
    else (digits? isDigit (d :: cs)).map (c :: ·)

def sign : List Char → Bool × List Char
  | '-' :: cs => (true, cs)
  | '+' :: cs => (false, cs)
  | cs => (false, cs)

def wholeDigits? (cs : List Char) : Option (List Char) := do
  let digits ← digits? Text.isAsciiDigit cs
  if digits.head? == some '0' && digits.length != 1 then none else some digits

def isDigitOf (base : Nat) (c : Char) : Bool :=
  match Text.hexDigit? c with
  | none => false
  | some d => d < base

def based? (base : Nat) (cs : List Char) : Option Int := do
  let digits ← digits? (isDigitOf base) cs
  return digits.foldl (fun n c => base * n + (Text.hexDigit? c).getD 0) 0

def decimal? (cs : List Char) : Option Int := do
  let (negative, cs) := sign cs
  let n := Text.ofDigits (← wholeDigits? cs)
  return if negative then -n else n

def integer? (cs : List Char) : Option Json := do
  let i ←
    match cs with
    | '0' :: 'x' :: cs => based? 16 cs
    | '0' :: 'o' :: cs => based? 8 cs
    | '0' :: 'b' :: cs => based? 2 cs
    | cs => decimal? cs
  if -0x8000000000000000 ≤ i && i < 0x8000000000000000 then some (.ofInt i) else none

def isExponentMark (c : Char) : Bool := c == 'e' || c == 'E'

def exponent? : List Char → Option Int
  | [] => some 0
  | _ :: cs => do
    let (negative, cs) := sign cs
    let n := Text.ofDigits (← digits? Text.isAsciiDigit cs)
    return if negative then -n else n

def fractionDigits? : List Char → Option (List Char)
  | [] => some []
  | _ :: cs => digits? Text.isAsciiDigit cs

/-- The nearest double-precision number; there is none for numbers that are too large, but minus
infinity for negative ones. -/
def fraction? (cs : List Char) : Option Json := do
  let (negative, cs) := sign cs
  let mantissa := cs.takeWhile (!isExponentMark ·)
  let exponent := cs.dropWhile (!isExponentMark ·)
  let fraction := mantissa.dropWhile (· != '.')
  if fraction.isEmpty && exponent.isEmpty then none
  let whole ← wholeDigits? (mantissa.takeWhile (· != '.'))
  let places ← fractionDigits? fraction
  let e ← exponent? exponent
  let x := Binary64.ofDecimal negative (Text.ofDigits (whole ++ places)) (e - places.length)
  if x == .infinity false then none else some (.float x)

def special? (cs : List Char) : Option Json :=
  let (negative, cs) := sign cs
  if cs = "inf".toList then some (.float (.infinity negative))
  else if cs = "nan".toList then some (.float (if negative then Binary64.nan.negated else .nan))
  else none

def number? (cs : List Char) : Option Json := fraction? cs <|> special? cs <|> integer? cs

end SelectQuery.Toml
