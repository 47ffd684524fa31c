namespace SelectQuery

structure Binary64 where
  bits : UInt64
deriving DecidableEq

namespace Binary64

def unitBit : Nat := 0x10000000000000

def signBit : Nat := 0x8000000000000000

def fraction (x : Binary64) : Nat := x.bits.toNat % unitBit

def exponent (x : Binary64) : Nat := x.bits.toNat / unitBit % 2048

def isNegative (x : Binary64) : Bool := signBit ≤ x.bits.toNat

def isFinite (x : Binary64) : Bool := x.exponent != 2047

def isNaN (x : Binary64) : Bool := x.exponent == 2047 && x.fraction != 0

def isZero (x : Binary64) : Bool := x.bits.toNat % signBit == 0

def significand (x : Binary64) : Nat :=
  if x.exponent = 0 then x.fraction else unitBit + x.fraction

def power (x : Binary64) : Int :=
  if x.exponent = 0 then -1074 else (x.exponent : Int) - 1075

def ratio (x : Binary64) : Nat × Nat :=
  if 0 ≤ x.power then (x.significand <<< x.power.toNat, 1)
  else (x.significand, 1 <<< (-x.power).toNat)

/-- Numbers as multiples of the least positive one; infinities lie beyond all others. -/
def units (x : Binary64) : Int :=
  let magnitude := if x.isFinite then x.significand <<< (x.power + 1074).toNat else 1 <<< 2100
  if x.isNegative then -(magnitude : Int) else magnitude

def one : Int := ((1 <<< 1074 : Nat) : Int)

def same (x y : Binary64) : Bool :=
  !x.isNaN && !y.isNaN && (x.bits == y.bits || (x.isZero && y.isZero))

def roundHalfEven (num den : Nat) : Nat :=
  let low := num / den
  let twice := 2 * (num % den)
  if twice < den then low
  else if den < twice then low + 1
  else if low % 2 = 0 then low else low + 1

def shifted (num den : Nat) (q : Int) : Nat × Nat :=
  if 0 ≤ q then (num, den <<< q.toNat) else (num <<< (-q).toNat, den)

/-- The word, without its sign, of the number nearest to the quotient. The significand is taken in
units of `2 ^ q` with 53 bits before the point, fewer only at the least `q`; as the words of
neighbours are neighbours, a carry out of the significand lands in the exponent. -/
def nearestWord (num den : Nat) : Nat :=
  let q := max ((num.log2 : Int) - den.log2 - 53) (-1074)
  let (n, d) := shifted num den q
  let q := if n / d < 2 * unitBit then q else q + 1
  let (n, d) := shifted num den q
  min ((q + 1074).toNat * unitBit + roundHalfEven n d) (2047 * unitBit)

def ofWord (negative : Bool) (word : Nat) : Binary64 :=
  ⟨UInt64.ofNat (if negative then signBit + word else word)⟩

def ofRatio (negative : Bool) (num den : Nat) : Binary64 :=
  ofWord negative (if num = 0 then 0 else nearestWord num den)

def zero (negative : Bool) : Binary64 := ofWord negative 0

def infinity (negative : Bool) : Binary64 := ofWord negative (2047 * unitBit)

def nan : Binary64 := ofWord false (2047 * unitBit + unitBit / 2)

def negated (x : Binary64) : Binary64 := ⟨x.bits + 0x8000000000000000⟩

def ofInt (i : Int) : Binary64 := ofRatio (i < 0) i.natAbs 1

def mul (x y : Binary64) : Binary64 :=
  ofRatio (x.isNegative != y.isNegative) (x.ratio.1 * y.ratio.1) (x.ratio.2 * y.ratio.2)

def div (x y : Binary64) : Binary64 :=
  ofRatio (x.isNegative != y.isNegative) (x.ratio.1 * y.ratio.2) (x.ratio.2 * y.ratio.1)

/-- `digits * 10 ^ exponent`, rounded. Beyond the two bounds nothing but an infinity and zero are
near. -/
def ofDecimal (negative : Bool) (digits : Nat) (exponent : Int) : Binary64 :=
  if digits = 0 then zero negative
  else if 400 < exponent then infinity negative
  else if digits.log2 + 3 * exponent < -1100 then zero negative
  else if 0 ≤ exponent then ofRatio negative (digits * Nat.pow 10 exponent.toNat) 1
  else ofRatio negative digits (Nat.pow 10 (-exponent).toNat)

example : (ofInt 1).bits = 0x3ff0000000000000 := by decide +kernel
example : (ofInt 0x20000000000001).bits = 0x4340000000000000 := by decide +kernel
example : (ofDecimal false 1 (-1)).bits = 0x3fb999999999999a := by decide +kernel
example : (ofDecimal true 5 (-324)).bits = 0x8000000000000001 := by decide +kernel
example : (ofDecimal false 17976931348623159 292).bits = 0x7ff0000000000000 := by decide +kernel
example : (zero true).same (zero false) = true := by decide +kernel
example : nan.same nan = false := by decide +kernel

end Binary64

end SelectQuery
