import SelectQuery.Binary64.Basic

namespace SelectQuery

structure Decimal where
  digits : Nat
  exponent : Int
deriving DecidableEq

inductive Tie
  | toEven
  | upward

namespace Decimal

def dropZeros : Nat → Decimal → Decimal
  | 0, d => d
  | n + 1, d => if d.digits % 10 = 0 then dropZeros n ⟨d.digits / 10, d.exponent + 1⟩ else d

def round (d : Decimal) (negative : Bool) : Binary64 :=
  .ofDecimal negative d.digits d.exponent

end Decimal

namespace Binary64

def decimalShifted (num den : Nat) (e : Int) : Nat × Nat :=
  if 0 ≤ e then (num, den * Nat.pow 10 e.toNat) else (num * Nat.pow 10 (-e).toNat, den)

def leadingExponent (num den : Nat) : Int :=
  let estimate := ((num.log2 : Int) - den.log2) * 30103 / 100000
  let reaches (e : Int) : Bool :=
    let (n, d) := decimalShifted num den e
    d ≤ n
  if reaches (estimate + 1) then estimate + 1
  else if reaches estimate then estimate
  else estimate - 1

/-- The two neighbours of a finite number among the decimals of `count` digits, the nearer first. -/
def neighbours (tie : Tie) (x : Binary64) (count : Nat) : List Decimal :=
  let (num, den) := x.ratio
  let e := leadingExponent num den - count + 1
  let (n, d) := decimalShifted num den e
  let low := n / d
  let twice := 2 * (n % d)
  let lowFirst := [low, low + 1]
  let highFirst := [low + 1, low]
  let ordered :=
    if twice = 0 then [low]
    else if twice < d then lowFirst
    else if d < twice then highFirst
    else match tie with
      | .upward => highFirst
      | .toEven => if low % 2 = 0 then lowFirst else highFirst
  ordered.map fun digits => Decimal.dropZeros count ⟨digits, e⟩

def allDigits (x : Binary64) : Decimal :=
  if 0 ≤ x.power then ⟨x.significand <<< x.power.toNat, 0⟩
  else ⟨x.significand * Nat.pow 5 (-x.power).toNat, x.power⟩

def readsBack (x : Binary64) (d : Decimal) : Bool := d.round x.isNegative == x

/-- The fewest digits that read back, and of those the nearest; seventeen are always enough. -/
def shortest (tie : Tie) (x : Binary64) : Decimal :=
  ((List.range 17).findSome? fun i => (x.neighbours tie (i + 1)).find? x.readsBack).getD
    x.allDigits

example : (ofDecimal false 1 (-1)).shortest .toEven = ⟨1, -1⟩ := by decide +kernel
example :
    (ofDecimal false 30000000000000004 (-17)).shortest .toEven = ⟨30000000000000004, -17⟩ := by
  decide +kernel
example : (ofDecimal false 5 (-324)).shortest .toEven = ⟨5, -324⟩ := by decide +kernel
example : (ofDecimal false 1 23).shortest .upward = ⟨1, 23⟩ := by decide +kernel

structure Layout where
  tie : Tie
  /-- The exponents of the first digit, from the first up to the second, for which no power of ten
  is written; all of them when absent. -/
  positional : Option (Int × Int)
  pointZero : Bool

namespace Layout

def isPositional (layout : Layout) (leading : Int) : Bool :=
  match layout.positional with
  | none => true
  | some (low, high) => low ≤ leading && leading < high

def wholeEnd (layout : Layout) : List Char := if layout.pointZero then ['.', '0'] else []

def writePositional (layout : Layout) (digits : List Char) (exponent : Int) : List Char :=
  if 0 ≤ exponent then
    digits ++ List.replicate exponent.toNat '0' ++ layout.wholeEnd
  else
    let places := (-exponent).toNat
    if places < digits.length then
      digits.take (digits.length - places) ++ '.' :: digits.drop (digits.length - places)
    else '0' :: '.' :: List.replicate (places - digits.length) '0' ++ digits

def writeScientific (digits : List Char) (leading : Int) : List Char :=
  let sign := if leading < 0 then '-' else '+'
  let exponent := sign :: Nat.toDigits 10 leading.natAbs
  match digits with
  | [] => []
  | [d] => d :: 'e' :: exponent
  | d :: rest => d :: '.' :: rest ++ 'e' :: exponent

def write (layout : Layout) (x : Binary64) : List Char :=
  let magnitude :=
    if x.isZero then '0' :: layout.wholeEnd
    else
      let d := x.shortest layout.tie
      let digits := Nat.toDigits 10 d.digits
      let leading := d.exponent + digits.length - 1
      if layout.isPositional leading then layout.writePositional digits d.exponent
      else writeScientific digits leading
  if x.isNegative then '-' :: magnitude else magnitude

end Layout

end Binary64

end SelectQuery
