import Mathlib.Algebra.Ring.Nat
import Mathlib.Tactic.Lemma
import SelectQuery.Binary64.Basic

/-! Rounding goes to the nearest number. Numbers of one exponent are the multiples of a spacing,
and those with smaller exponents lie below them, so that the nearest multiple of the right spacing
is the nearest of all finite numbers. -/

namespace SelectQuery.Binary64

section Halves

variable {n d : Nat}

lemma roundHalfEven_bounds (n d : Nat) :
    n / d ≤ roundHalfEven n d ∧ roundHalfEven n d ≤ n / d + 1 := by
  simp only [roundHalfEven]
  split
  · omega
  · split
    · omega
    · split <;> omega

lemma roundHalfEven_near (hd : 0 < d) :
    2 * ((roundHalfEven n d * d : Int) - n).natAbs ≤ d ∧
      (2 * ((roundHalfEven n d * d : Int) - n).natAbs = d → roundHalfEven n d % 2 = 0) := by
  have hn : (n : Int) = n / d * d + n % d := (Int.ediv_mul_add_emod n d).symm
  have hlow : ((n / d : Nat) : Int) * d = (n : Int) / d * d := by rw [Int.natCast_ediv]
  have hrest : ((n % d : Nat) : Int) = (n : Int) % d := Int.natCast_emod n d
  have hlt := Nat.mod_lt n hd
  have hnext : ((n / d + 1 : Nat) : Int) * d = ((n / d : Nat) : Int) * d + d := by
    rw [Int.natCast_add, Int.add_mul]
    simp
  simp only [roundHalfEven]
  split
  · omega
  · split
    · rw [hnext]
      omega
    · split
      · omega
      · rw [hnext]
        omega

lemma natAbs_roundHalfEven_le (hd : 0 < d) (k : Int) :
    ((roundHalfEven n d * d : Int) - n).natAbs ≤ (k * d - n).natAbs ∧
      ((k * d - n).natAbs = ((roundHalfEven n d * d : Int) - n).natAbs →
        k = roundHalfEven n d ∨ roundHalfEven n d % 2 = 0) := by
  obtain ⟨hnear, heven⟩ := roundHalfEven_near (n := n) hd
  generalize roundHalfEven n d = r at hnear heven ⊢
  rcases Int.lt_trichotomy k r with hk | rfl | hk
  · have hstep : (k + 1) * d ≤ (r : Int) * d :=
      Int.mul_le_mul_of_nonneg_right hk (Int.natCast_nonneg d)
    rw [Int.add_mul] at hstep
    omega
  · exact ⟨Nat.le_refl _, fun _ => Or.inl rfl⟩
  · have hstep : ((r : Int) + 1) * d ≤ k * d :=
      Int.mul_le_mul_of_nonneg_right hk (Int.natCast_nonneg d)
    rw [Int.add_mul] at hstep
    omega

end Halves

section Words

variable {x : Binary64}

lemma units_of_finite (h : x.isFinite = true) :
    x.units = if x.isNegative then -((x.significand * 2 ^ (x.exponent - 1) : Nat) : Int)
      else ((x.significand * 2 ^ (x.exponent - 1) : Nat) : Int) := by
  have hshift : (x.power + 1074).toNat = x.exponent - 1 := by
    rw [power]
    split <;> omega
  rw [units, if_pos h, Nat.shiftLeft_eq, hshift]

lemma fraction_lt (x : Binary64) : x.fraction < unitBit := Nat.mod_lt _ (by decide)

lemma significand_lt (x : Binary64) : x.significand < 2 * unitBit := by
  have hfraction := x.fraction_lt
  rw [significand]
  split <;> omega

lemma bits_ofWord {word : Nat} (h : word < 2047 * unitBit) :
    (ofWord false word).bits.toNat = word := by
  rw [ofWord, if_neg Bool.false_ne_true, UInt64.toNat_ofNat']
  exact Nat.mod_eq_of_lt (Nat.lt_trans h (by decide))

/-- A carry out of the significand lands in the exponent. -/
lemma fields_ofWord {r k : Nat} (hr : r ≤ 2 * unitBit) (hk : k = 0 ∨ unitBit ≤ r)
    (hword : k * unitBit + r < 2047 * unitBit) :
    (ofWord false (k * unitBit + r)).isFinite = true ∧
      (ofWord false (k * unitBit + r)).units = r * (2 ^ k : Nat) ∧
      (ofWord false (k * unitBit + r)).fraction % 2 = r % 2 := by
  have hbits := bits_ofWord hword
  generalize ofWord false (k * unitBit + r) = x at hbits
  have hnegative : x.isNegative = false := by
    rw [isNegative, hbits, decide_eq_false_iff_not, signBit]
    rw [unitBit] at hword ⊢
    omega
  have hexponent : x.exponent = (k * unitBit + r) / unitBit := by
    rw [exponent, hbits]
    rw [unitBit] at hword ⊢
    omega
  have hfraction : x.fraction = r % unitBit := by
    rw [fraction, hbits]
    exact Nat.mul_add_mod_self_right k unitBit r
  have hfinite : x.isFinite = true := by
    rw [isFinite, bne_iff_ne, hexponent]
    rw [unitBit] at hword ⊢
    omega
  have hmagnitude : x.significand * 2 ^ (x.exponent - 1) = r * 2 ^ k := by
    rcases Nat.lt_or_eq_of_le hr with hr | rfl
    · have hshift : x.exponent - 1 = k := by
        rw [hexponent]
        rw [unitBit] at hr hk ⊢
        omega
      have hsignificand : x.significand = r := by
        rw [significand, hexponent, hfraction]
        rw [unitBit] at hr hk ⊢
        split <;> omega
      rw [hshift, hsignificand]
    · have hshift : x.exponent - 1 = k + 1 := by
        rw [hexponent]
        rw [unitBit]
        omega
      have hsignificand : x.significand = unitBit := by
        rw [significand, hexponent, hfraction, Nat.mul_mod_left, if_neg, Nat.add_zero]
        rw [unitBit]
        omega
      rw [hshift, hsignificand, Nat.pow_succ, Nat.mul_comm (2 ^ k), ← Nat.mul_assoc,
        Nat.mul_comm unitBit]
  refine ⟨hfinite, ?_, ?_⟩
  · rw [units_of_finite hfinite, hnegative, if_neg Bool.false_ne_true, hmagnitude,
      Int.natCast_mul]
  · rw [hfraction, unitBit]
    omega

lemma units_multiple_or_lt (h : x.isFinite = true) (k : Nat) :
    (∃ j : Int, x.units = j * (2 ^ k : Nat)) ∨ (0 < k ∧ x.units < unitBit * (2 ^ k : Nat)) := by
  rw [units_of_finite h]
  rcases Nat.lt_or_ge (x.exponent - 1) k with hk | hk
  · right
    have hlt : x.significand * 2 ^ (x.exponent - 1) < unitBit * 2 ^ k :=
      calc x.significand * 2 ^ (x.exponent - 1)
        _ < 2 * unitBit * 2 ^ (x.exponent - 1) :=
          Nat.mul_lt_mul_of_pos_right x.significand_lt (Nat.two_pow_pos _)
        _ = unitBit * 2 ^ (x.exponent - 1 + 1) := by
          rw [Nat.pow_succ, Nat.mul_comm 2, Nat.mul_assoc, Nat.mul_comm 2]
        _ ≤ unitBit * 2 ^ k := Nat.mul_le_mul_left _ (Nat.pow_le_pow_right (by decide) hk)
    rw [← Int.natCast_mul]
    refine ⟨Nat.zero_lt_of_lt hk, ?_⟩
    split <;> omega
  · left
    obtain ⟨t, ht⟩ := Nat.exists_eq_add_of_le hk
    have hsplit : x.significand * 2 ^ (x.exponent - 1) = x.significand * 2 ^ t * 2 ^ k := by
      rw [ht, Nat.add_comm, Nat.pow_add, Nat.mul_assoc]
    rw [hsplit, Int.natCast_mul]
    split
    · exact ⟨-(x.significand * 2 ^ t : Nat), (Int.neg_mul ..).symm⟩
    · exact ⟨(x.significand * 2 ^ t : Nat), rfl⟩

end Words

section Spacing

variable {num den : Nat}

lemma shifted_eq (num den : Nat) (q : Int) :
    shifted num den q = (num * 2 ^ (-q).toNat, den * 2 ^ q.toNat) := by
  rw [shifted]
  split
  · next hq =>
    have hzero : (-q).toNat = 0 := by omega
    rw [hzero, Nat.pow_zero, Nat.mul_one, Nat.shiftLeft_eq]
  · next hq =>
    have hzero : q.toNat = 0 := by omega
    rw [hzero, Nat.pow_zero, Nat.mul_one, Nat.shiftLeft_eq]

lemma scaled_succ (num den : Nat) (q : Int) :
    (num * 2 ^ (-(q + 1)).toNat = num * 2 ^ (-q).toNat ∧
      den * 2 ^ (q + 1).toNat = 2 * (den * 2 ^ q.toNat)) ∨
    (num * 2 ^ (-q).toNat = 2 * (num * 2 ^ (-(q + 1)).toNat) ∧
      den * 2 ^ (q + 1).toNat = den * 2 ^ q.toNat) := by
  rcases Int.lt_or_le q 0 with hq | hq
  · have hnum : (-q).toNat = (-(q + 1)).toNat + 1 := by omega
    have hden : (q + 1).toNat = q.toNat := by omega
    rw [hnum, hden, Nat.pow_succ, ← Nat.mul_assoc, Nat.mul_comm _ 2]
    exact Or.inr ⟨rfl, rfl⟩
  · have hnum : (-(q + 1)).toNat = (-q).toNat := by omega
    have hden : (q + 1).toNat = q.toNat + 1 := by omega
    rw [hnum, hden, Nat.pow_succ, ← Nat.mul_assoc, Nat.mul_comm _ 2]
    exact Or.inl ⟨rfl, rfl⟩

lemma scaled_lt {m n s t c : Nat} (hn : 0 < n) (h : m.log2 + 1 + s ≤ c + n.log2 + t) :
    m * 2 ^ s < 2 ^ c * (n * 2 ^ t) :=
  calc m * 2 ^ s
    _ < 2 ^ (m.log2 + 1) * 2 ^ s := Nat.mul_lt_mul_of_pos_right Nat.lt_log2_self (Nat.two_pow_pos s)
    _ = 2 ^ (m.log2 + 1 + s) := (Nat.pow_add ..).symm
    _ ≤ 2 ^ (c + n.log2 + t) := Nat.pow_le_pow_right (by decide) h
    _ = 2 ^ c * (2 ^ n.log2 * 2 ^ t) := by rw [Nat.pow_add, Nat.pow_add, Nat.mul_assoc]
    _ ≤ 2 ^ c * (n * 2 ^ t) :=
      Nat.mul_le_mul_left _ (Nat.mul_le_mul_right _ (Nat.log2_self_le (Nat.ne_of_gt hn)))

/-- The spacing is so chosen that the quotient in units of it has 53 bits, and fewer only at the
least spacing. -/
lemma exists_spacing (hnum : 0 < num) (hden : 0 < den) : ∃ q : Int, -1074 ≤ q ∧
    nearestWord num den = min ((q + 1074).toNat * unitBit +
      roundHalfEven (num * 2 ^ (-q).toNat) (den * 2 ^ q.toNat)) (2047 * unitBit) ∧
    num * 2 ^ (-q).toNat < 2 * unitBit * (den * 2 ^ q.toNat) ∧
    (q = -1074 ∨ unitBit * (den * 2 ^ q.toNat) ≤ num * 2 ^ (-q).toNat) := by
  simp only [nearestWord, shifted_eq]
  generalize hq : max ((num.log2 : Int) - den.log2 - 53) (-1074) = q
  have hupper : num * 2 ^ (-q).toNat < 2 ^ 54 * (den * 2 ^ q.toNat) :=
    scaled_lt hden (by omega)
  have hlower : q = -1074 ∨ unitBit * (den * 2 ^ q.toNat) ≤ num * 2 ^ (-q).toNat := by
    rcases Int.lt_or_le (-1074) q with hlt | hle
    · have hless : den * 2 ^ (52 + q.toNat) < 2 ^ 0 * (num * 2 ^ (-q).toNat) :=
        scaled_lt hnum (by omega)
      rw [Nat.pow_add, Nat.mul_left_comm, Nat.pow_zero, Nat.one_mul] at hless
      exact Or.inr (Nat.le_of_lt hless)
    · exact Or.inl (by omega)
  have hpos : 0 < den * 2 ^ q.toNat := Nat.mul_pos hden (Nat.two_pow_pos _)
  split
  · next hshort =>
    rw [Nat.div_lt_iff_lt_mul hpos] at hshort
    exact ⟨q, by omega, rfl, hshort, hlower⟩
  · next hlong =>
    rw [Nat.div_lt_iff_lt_mul hpos, Nat.not_lt] at hlong
    have hwider := scaled_succ num den q
    rw [unitBit] at hlong ⊢
    refine ⟨q + 1, by omega, rfl, ?_, Or.inr ?_⟩
    · omega
    · omega

lemma one_eq {e : Nat} (he : e = 1074) : one = (2 ^ e : Nat) := by
  rw [one, ← he, Nat.one_shiftLeft]

lemma scaled_eq (num den : Nat) {q : Int} (hq : -1074 ≤ q) :
    ((num * 2 ^ (-q).toNat : Nat) : Int) * (den * 2 ^ (q + 1074).toNat : Nat) =
      num * one * (den * 2 ^ q.toNat : Nat) := by
  -- The exponent is kept a variable, lest the power be computed.
  obtain ⟨e, he⟩ : ∃ e : Nat, e = 1074 := ⟨_, rfl⟩
  have hexponent : (-q).toNat + (q + 1074).toNat = e + q.toNat := by omega
  have hpow : 2 ^ (-q).toNat * 2 ^ (q + 1074).toNat = 2 ^ e * 2 ^ q.toNat := by
    rw [← Nat.pow_add, ← Nat.pow_add, hexponent]
  have hnat : num * 2 ^ (-q).toNat * (den * 2 ^ (q + 1074).toNat) =
      num * 2 ^ e * (den * 2 ^ q.toNat) := by
    rw [Nat.mul_mul_mul_comm, hpow, Nat.mul_mul_mul_comm]
  rw [one_eq he, ← Int.natCast_mul, hnat]
  simp only [Int.natCast_mul]

end Spacing

def distance (x : Binary64) (num den : Nat) : Nat := (x.units * den - num * one).natAbs

/-- No finite number is nearer to the quotient, and another one is as near only if the fraction of
this one is even. -/
structure Nearest (num den : Nat) (x : Binary64) : Prop where
  finite : x.isFinite = true
  least : ∀ y : Binary64, y.isFinite = true → x.distance num den ≤ y.distance num den
  even : ∀ y : Binary64, y.isFinite = true → y.distance num den = x.distance num den →
    y.units = x.units ∨ x.fraction % 2 = 0

section Distance

variable {x y : Binary64} {num den n d g : Nat}

lemma distance_mul (hscale : (n : Int) * (den * g : Nat) = num * one * d) :
    x.distance num den * d = (x.units * (den * d : Nat) - n * (den * g : Nat)).natAbs := by
  have hproduct : (x.units * den - num * one) * d =
      x.units * (den * d : Nat) - n * (den * g : Nat) := by
    rw [Int.sub_mul, hscale, Int.natCast_mul, Int.mul_assoc]
  rw [← hproduct, distance, Int.natAbs_mul, Int.natAbs_natCast]

lemma distance_mul_of_multiple {j : Int}
    (hscale : (n : Int) * (den * g : Nat) = num * one * d) (hx : x.units = j * g) :
    x.distance num den * d = (j * d - n).natAbs * (den * g) := by
  have hproduct : j * g * (den * d : Nat) - n * (den * g : Nat) =
      (j * d - n) * (den * g : Nat) := by
    rw [Int.sub_mul, Int.natCast_mul, Int.natCast_mul]
    grind
  rw [distance_mul hscale, hx, hproduct, Int.natAbs_mul, Int.natAbs_natCast]

lemma lt_distance_mul {u : Nat} (hscale : (n : Int) * (den * g : Nat) = num * one * d)
    (hden : 0 < den) (hd : 0 < d) (hu : u * d ≤ n) (hy : y.units < u * g) :
    ((u : Int) * d - n).natAbs * (den * g) < y.distance num den * d := by
  have hless : y.units * (den * d : Nat) < u * g * (den * d : Nat) :=
    Int.mul_lt_mul_of_pos_right hy (Int.natCast_pos.mpr (Nat.mul_pos hden hd))
  have hunder : (u * d : Int) * (den * g : Nat) ≤ n * (den * g : Nat) :=
    Int.mul_le_mul_of_nonneg_right (by exact_mod_cast hu) (Int.natCast_nonneg _)
  have hsame : (u * d : Int) * (den * g : Nat) = u * g * (den * d : Nat) := by
    rw [Int.natCast_mul, Int.natCast_mul]
    grind
  rw [distance_mul hscale, ← Int.natAbs_natCast (den * g), ← Int.natAbs_mul, Int.sub_mul,
    Int.natAbs_natCast]
  omega

/-- A number next to the quotient on the grid of its spacing is the nearest of all. -/
lemma nearest_of_spacing {k : Nat} (hden : 0 < den) (hd : 0 < d)
    (hscale : (n : Int) * (den * 2 ^ k : Nat) = num * one * d)
    (hlow : k = 0 ∨ unitBit * d ≤ n) (hfinite : x.isFinite = true)
    (hunits : x.units = roundHalfEven n d * (2 ^ k : Nat))
    (hparity : x.fraction % 2 = roundHalfEven n d % 2) : Nearest num den x := by
  have hweight : 0 < den * 2 ^ k := Nat.mul_pos hden (Nat.two_pow_pos k)
  have hx := distance_mul_of_multiple hscale hunits
  have hall (y : Binary64) (hy : y.isFinite = true) : x.distance num den ≤ y.distance num den ∧
      (y.distance num den = x.distance num den → y.units = x.units ∨ x.fraction % 2 = 0) := by
    rcases units_multiple_or_lt hy k with ⟨j, hj⟩ | ⟨hk, hlt⟩
    · obtain ⟨hnear, heven⟩ := natAbs_roundHalfEven_le (n := n) hd j
      have hother := distance_mul_of_multiple hscale hj
      constructor
      · apply Nat.le_of_mul_le_mul_right _ hd
        rw [hx, hother]
        exact Nat.mul_le_mul_right _ hnear
      · intro hsame
        rw [hsame, hx] at hother
        have hcancel := Nat.eq_of_mul_eq_mul_right hweight hother
        refine (heven hcancel.symm).imp (fun hjr => ?_) (hparity.trans ·)
        rw [hj, hunits, hjr]
    · -- The least number that has the spacing lies between this one and the quotient.
      have hunder : unitBit * d ≤ n := hlow.resolve_left (Nat.ne_of_gt hk)
      have hnear := (natAbs_roundHalfEven_le (n := n) hd unitBit).1
      have hless := lt_distance_mul hscale hden hd hunder hlt
      have hfar : x.distance num den < y.distance num den := by
        apply Nat.lt_of_mul_lt_mul_right (a := d)
        rw [hx]
        exact Nat.lt_of_le_of_lt (Nat.mul_le_mul_right _ hnear) hless
      exact ⟨Nat.le_of_lt hfar, fun hsame => absurd hsame (Nat.ne_of_gt hfar)⟩
  exact ⟨hfinite, fun y hy => (hall y hy).1, fun y hy => (hall y hy).2⟩

end Distance

lemma spacing_le {num den e : Nat} {q : Int} (he : e ≤ 1023) (h : num < 2 ^ e * den)
    (hlow : unitBit * (den * 2 ^ q.toNat) ≤ num * 2 ^ (-q).toNat) : q ≤ 970 := by
  refine Int.not_lt.mp fun hq => ?_
  have hzero : (-q).toNat = 0 := by omega
  rw [hzero, Nat.pow_zero, Nat.mul_one] at hlow
  have hexceeds : 2 ^ e * den ≤ num :=
    calc 2 ^ e * den
      _ ≤ 2 ^ (52 + q.toNat) * den :=
        Nat.mul_le_mul_right _ (Nat.pow_le_pow_right (by decide) (by omega))
      _ = unitBit * (den * 2 ^ q.toNat) := by
        rw [Nat.pow_add, Nat.mul_assoc, Nat.mul_comm (2 ^ q.toNat)]
        rfl
      _ ≤ num := hlow
  exact absurd h (Nat.not_lt.mpr hexceeds)

theorem nearest_ofRatio {num den e : Nat} (hden : 0 < den) (he : e ≤ 1023)
    (h : num < 2 ^ e * den) : Nearest num den (ofRatio false num den) := by
  rw [ofRatio]
  split
  · next hzero =>
    subst hzero
    obtain ⟨hfinite, hunits, hparity⟩ :=
      fields_ofWord (r := 0) (k := 0) (Nat.zero_le _) (Or.inl rfl) (by decide)
    have hscale : ((0 : Nat) : Int) * (den * 2 ^ 0 : Nat) = (0 : Nat) * one * (1 : Nat) := by simp
    exact nearest_of_spacing hden Nat.one_pos hscale (Or.inl rfl) hfinite hunits hparity
  · next hnum =>
    obtain ⟨q, hq, hword, hupper, hlower⟩ := exists_spacing (Nat.pos_of_ne_zero hnum) hden
    have hscale := scaled_eq num den hq
    have hd : 0 < den * 2 ^ q.toNat := Nat.mul_pos hden (Nat.two_pow_pos _)
    have hhigh : q ≤ 970 := by
      rcases hlower with rfl | hlower
      · decide
      · exact spacing_le he h hlower
    generalize num * 2 ^ (-q).toNat = n at hword hupper hlower hscale
    generalize den * 2 ^ q.toNat = d at hword hupper hlower hscale hd
    obtain ⟨hfloor, hceil⟩ := roundHalfEven_bounds n d
    have hr : roundHalfEven n d ≤ 2 * unitBit := by
      rw [← Nat.div_lt_iff_lt_mul hd] at hupper
      omega
    have hlow : (q + 1074).toNat = 0 ∨ unitBit * d ≤ n := hlower.imp (fun h => by omega) id
    have hk : (q + 1074).toNat = 0 ∨ unitBit ≤ roundHalfEven n d := by
      refine hlow.imp id fun h => ?_
      rw [← Nat.le_div_iff_mul_le hd] at h
      exact Nat.le_trans h hfloor
    have hbound : (q + 1074).toNat * unitBit + roundHalfEven n d < 2047 * unitBit := by
      rw [unitBit] at hr ⊢
      omega
    obtain ⟨hfinite, hunits, hparity⟩ := fields_ofWord hr hk hbound
    rw [hword, Nat.min_eq_left (Nat.le_of_lt hbound)]
    exact nearest_of_spacing hden hd hscale hlow hfinite hunits hparity

lemma nearest_ofInt {i : Int} (hlow : 0 ≤ i) (hhigh : i < 0x10000000000000000) :
    Nearest i.toNat 1 (ofInt i) := by
  have hnegative : decide (i < 0) = false := decide_eq_false (by omega)
  have hnat : i.natAbs = i.toNat := by omega
  rw [ofInt, hnegative, hnat]
  exact nearest_ofRatio (e := 64) Nat.one_pos (by decide) (by omega)

end SelectQuery.Binary64
