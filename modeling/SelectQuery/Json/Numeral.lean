import SelectQuery.Json.Basic
import SelectQuery.Text.Basic

namespace SelectQuery.Json

structure Numeral where
  negative : Bool
  whole : List Char
  fraction : List Char
  exponent : Option Int

namespace Numeral

def sign : List Char → Bool × List Char
  | '-' :: cs => (true, cs)
  | cs => (false, cs)

def isWhole : List Char → Bool
  | [] => false
  | ['0'] => true
  | c :: _ => c != '0'

def fraction? : List Char → Option (List Char × List Char)
  | '.' :: cs =>
    let digits := cs.takeWhile Text.isAsciiDigit
    if digits.isEmpty then none else some (digits, cs.dropWhile Text.isAsciiDigit)
  | cs => some ([], cs)

def exponentDigits? (negative : Bool) (cs : List Char) : Option Int :=
  if cs.isEmpty || !cs.all Text.isAsciiDigit then none
  else some (if negative then -Text.ofDigits cs else Text.ofDigits cs)

def exponent? : List Char → Option (Option Int)
  | [] => some none
  | c :: cs =>
    if c = 'e' || c = 'E' then
      match cs with
      | '+' :: cs => (exponentDigits? false cs).map some
      | '-' :: cs => (exponentDigits? true cs).map some
      | cs => (exponentDigits? false cs).map some
    else none

def read? (cs : List Char) : Option Numeral := do
  let (negative, cs) := sign cs
  let whole := cs.takeWhile Text.isAsciiDigit
  if !isWhole whole then none
  let (fraction, cs) ← fraction? (cs.dropWhile Text.isAsciiDigit)
  let exponent ← exponent? cs
  return ⟨negative, whole, fraction, exponent⟩

/-- Appends digits for as long as a 64-bit word holds the number; the digits left over come back. -/
def gather (n : Nat) : List Char → Nat × List Char
  | [] => (n, [])
  | c :: cs =>
    let next := 10 * n + Text.digitValue c
    if next < 0x10000000000000000 then gather next cs else (n, c :: cs)

def parts (n : Numeral) : Nat × Int :=
  let (whole, beyond) := gather 0 n.whole
  let (significand, unread) := gather whole n.fraction
  (significand, beyond.length - (n.fraction.length - unread.length : Int) + n.exponent.getD 0)

/-- The significand as a fraction, then multiplied or divided by a power of ten, with a rounding
after each step; below `1e-308` the division takes two steps. -/
def scale? (significand : Nat) (exponent : Int) : Option Binary64 :=
  let x := Binary64.ofInt significand
  let power (e : Int) := Binary64.ofDecimal false 1 e
  if significand = 0 then some (.zero false)
  else if 308 < exponent then none
  else if 0 ≤ exponent then
    let y := x.mul (power exponent)
    if y.isFinite then some y else none
  else if -308 ≤ exponent then some (x.div (power (-exponent)))
  else if -616 ≤ exponent then some ((x.div (power 308)).div (power (-exponent - 308)))
  else some (.zero false)

def float (n : Numeral) : Json :=
  match scale? n.parts.1 n.parts.2 with
  | some x => .float (if n.negative then x.negated else x)
  | none => .void

/-- Without point and exponent a whole number where one of 64 bits fits, but for minus zero. -/
def value (n : Numeral) : Json :=
  if n.fraction.isEmpty && n.exponent.isNone then
    let k := Text.ofDigits n.whole
    if n.negative then
      if h : 0 < k ∧ k ≤ 0x8000000000000000 then .int ⟨-k, by omega⟩ else n.float
    else if h : k < 0x10000000000000000 then .int ⟨k, by omega⟩ else n.float
  else n.float

end Numeral

end SelectQuery.Json
