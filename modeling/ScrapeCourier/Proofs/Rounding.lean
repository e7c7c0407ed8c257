import ScrapeCourier.Number.Rounding

namespace ScrapeCourier

namespace Rounding

variable {x y : Rat}

theorem le_nearest {n : Int} (h : n ≤ x) : n ≤ nearest x := by
  have hfloor : n ≤ x.floor := Rat.le_floor_iff.mpr h
  rw [nearest]
  split
  · exact hfloor
  · split
    · omega
    · split
      · exact hfloor
      · omega

theorem nearest_le (x : Rat) : (nearest x : Rat) ≤ x + 1 / 2 := by
  have hfloor := Rat.floor_le x
  have hnext : ((x.floor + 1 : Int) : Rat) = x.floor + 1 := Rat.intCast_add _ _
  rw [nearest]
  split
  · grind
  · split
    · grind
    · split
      · grind
      · grind

theorem sub_le_nearest (x : Rat) : x - 1 / 2 ≤ nearest x := by
  have hfloor := Rat.lt_floor_add_one x
  have hnext : ((x.floor + 1 : Int) : Rat) = x.floor + 1 := Rat.intCast_add _ _
  rw [nearest]
  split
  · grind
  · split
    · grind
    · split
      · grind
      · grind

theorem nearest_lt {n : Int} (h : x + 1 / 2 < n) : nearest x < n := by
  have hle := nearest_le x
  apply Rat.intCast_lt_intCast.mp
  grind

theorem nearest_eq {n : Int} (hlow : n - 1 / 2 < x) (hhigh : x < n + 1 / 2) : nearest x = n := by
  have hsub := sub_le_nearest x
  have hle : nearest x < n + 1 := by
    apply nearest_lt
    rw [Rat.intCast_add]
    grind
  have hge : n - 1 < nearest x := by
    apply Rat.intCast_lt_intCast.mp
    rw [Rat.intCast_sub]
    grind
  omega

theorem nearest_mono (h : x ≤ y) : nearest x ≤ nearest y := by
  obtain hlt | rfl := Rat.le_iff_eq_or_lt.mp h
  · apply Int.le_of_lt_add_one
    apply nearest_lt
    have hsub := sub_le_nearest y
    rw [Rat.intCast_add]
    grind
  · exact Int.le_refl _

theorem two_zpow_pos (e : Int) : (0 : Rat) < 2 ^ e := Rat.zpow_pos (by decide)

theorem exists_two_zpow (n : Nat) : ∃ k : Nat, 0 < k ∧ (2 : Rat) ^ (n : Int) = k := by
  refine ⟨2 ^ n, Nat.two_pow_pos n, ?_⟩
  rw [Rat.zpow_natCast, Rat.natCast_pow]
  rfl

theorem zpow_le_zpow {b : Nat} (hb : 0 < b) {e f : Int} (h : e ≤ f) : (b : Rat) ^ e ≤ b ^ f := by
  obtain ⟨m, hm⟩ := Int.eq_ofNat_of_zero_le (Int.sub_nonneg_of_le h)
  have hpos : (0 : Rat) < b := Rat.natCast_pos.mpr hb
  have hone : (1 : Rat) ≤ b ^ (m : Int) := by
    rw [Rat.zpow_natCast, ← Rat.natCast_pow]
    exact Rat.natCast_le_natCast.mpr (Nat.pow_pos hb)
  have hmul := Rat.mul_le_mul_of_nonneg_left hone (Rat.le_of_lt (Rat.zpow_pos hpos (n := e)))
  rwa [Rat.mul_one, ← Rat.zpow_add (Rat.ne_of_gt hpos), ← hm, Int.add_comm,
    Int.sub_add_cancel] at hmul

theorem two_zpow_le {e f : Int} (h : e ≤ f) : (2 : Rat) ^ e ≤ 2 ^ f :=
  zpow_le_zpow (b := 2) (by decide) h

theorem two_zpow_log2_le {n : Nat} (h : n ≠ 0) : (2 : Rat) ^ (n.log2 : Int) ≤ n := by
  have hle := Rat.natCast_le_natCast.mpr (Nat.log2_self_le h)
  rwa [Rat.natCast_pow, ← Rat.zpow_natCast] at hle

theorem lt_two_zpow_log2 (n : Nat) : (n : Rat) < 2 ^ (n.log2 + 1 : Int) := by
  have hlt := Rat.natCast_lt_natCast.mpr (Nat.lt_log2_self (n := n))
  rwa [Rat.natCast_pow, ← Rat.zpow_natCast] at hlt

theorem mul_den (x : Rat) : x * x.den = x.num := by
  have hx : x = x.num / x.den := by
    rw [← Rat.intCast_natCast, ← Rat.divInt_eq_div, Rat.num_divInt_den]
  calc x * x.den = x.num / x.den * x.den := by rw [← hx]
    _ = x.num := Rat.div_mul_cancel (Rat.ne_of_gt (Rat.natCast_pos.mpr x.den_pos))

theorem lt_of_magnitude (h : 0 < x) : x < 2 ^ (magnitude x + 1) := by
  simp only [magnitude]
  split
  · have hsum : (x.num.natAbs.log2 : Int) - x.den.log2 + 1 + x.den.log2 =
        x.num.natAbs.log2 + 1 := by omega
    -- Both sides times the power of two at or below the denominator.
    apply Rat.lt_of_mul_lt_mul_right _ (Rat.le_of_lt (two_zpow_pos x.den.log2))
    rw [← Rat.zpow_add (by decide), hsum]
    have hden : x * 2 ^ (x.den.log2 : Int) ≤ x.num := by
      rw [← mul_den]
      exact Rat.mul_le_mul_of_nonneg_left (two_zpow_log2_le x.den_nz) (Rat.le_of_lt h)
    have habs : (x.num : Rat) ≤ x.num.natAbs := by
      rw [← Rat.intCast_natCast, Rat.intCast_le_intCast]
      exact Int.le_natAbs
    have hnum := lt_two_zpow_log2 x.num.natAbs
    grind
  next hlt =>
    rw [Int.sub_add_cancel]
    exact Rat.not_le.mp hlt

theorem magnitude_le (h : 0 < x) : 2 ^ magnitude x ≤ x := by
  simp only [magnitude]
  split
  next hle => exact hle
  · have hnum : x.num.natAbs ≠ 0 :=
      Int.natAbs_ne_zero.mpr (mt Rat.num_eq_zero.mp (Rat.ne_of_gt h))
    have hsum : (x.num.natAbs.log2 : Int) - x.den.log2 - 1 + (x.den.log2 + 1) =
        x.num.natAbs.log2 := by omega
    -- Both sides times the power of two above the denominator.
    apply Rat.le_of_mul_le_mul_right _ (two_zpow_pos (x.den.log2 + 1))
    rw [← Rat.zpow_add (by decide), hsum]
    have hden : x * x.den ≤ x * 2 ^ (x.den.log2 + 1 : Int) :=
      Rat.mul_le_mul_of_nonneg_left (Rat.le_of_lt (lt_two_zpow_log2 x.den)) (Rat.le_of_lt h)
    rw [mul_den] at hden
    have habs : (x.num.natAbs : Rat) = x.num := by
      rw [← Rat.intCast_natCast, Int.natAbs_of_nonneg (Rat.num_nonneg.mpr (Rat.le_of_lt h))]
    have hlog := two_zpow_log2_le hnum
    grind

theorem magnitude_lt {e : Int} (h : 0 < x) (hlt : x < 2 ^ e) : magnitude x < e := by
  apply Int.not_le.mp
  intro hle
  have hpow := two_zpow_le hle
  have hmagnitude := magnitude_le h
  grind

/-- What is lost to, or gained by, rounding to 53 bits is at most half a unit in the last place. -/
theorem significant_near (h : 0 < x) :
    x - 2 ^ (magnitude x - 53) ≤ significant x ∧ significant x ≤ x + 2 ^ (magnitude x - 53) := by
  have hunit := two_zpow_pos (magnitude x - 52)
  have hlow := Rat.mul_le_mul_of_nonneg_right
    (sub_le_nearest (x / 2 ^ (magnitude x - 52))) (Rat.le_of_lt hunit)
  have hhigh := Rat.mul_le_mul_of_nonneg_right
    (nearest_le (x / 2 ^ (magnitude x - 52))) (Rat.le_of_lt hunit)
  have hquot : x / 2 ^ (magnitude x - 52) * 2 ^ (magnitude x - 52) = x :=
    Rat.div_mul_cancel (Rat.ne_of_gt hunit)
  have hhalf : (2 : Rat) ^ (magnitude x - 52) = 2 ^ (magnitude x - 53) * 2 := by
    rw [← Rat.zpow_add_one (by decide)]
    congr 1
    omega
  rw [significant, if_neg (Rat.not_le.mpr h)]
  constructor
  · grind
  · grind

/-- Below a power of two the unit is no larger than that of the numbers next to it. -/
theorem significant_near_of_lt {e : Int} (h : 0 ≤ x) (hlt : x < 2 ^ e) :
    x - 2 ^ (e - 54) ≤ significant x ∧ significant x ≤ x + 2 ^ (e - 54) := by
  obtain hpos | rfl := Rat.le_iff_eq_or_lt.mp h
  · have hnear := significant_near hpos
    have hmagnitude := magnitude_lt hpos hlt
    have hunit : (2 : Rat) ^ (magnitude x - 53) ≤ 2 ^ (e - 54) := two_zpow_le (by omega)
    constructor
    · grind
    · grind
  · have hunit := two_zpow_pos (e - 54)
    have hzero : significant 0 = 0 := by decide +kernel
    constructor
    · grind
    · grind

theorem significant_error (h : 0 ≤ x) :
    x - x * 2 ^ (-53 : Int) ≤ significant x ∧ significant x ≤ x + x * 2 ^ (-53 : Int) := by
  obtain hpos | rfl := Rat.le_iff_eq_or_lt.mp h
  · have hnear := significant_near hpos
    have hpart : (2 : Rat) ^ (magnitude x - 53) ≤ x * 2 ^ (-53 : Int) := by
      have hle := Rat.mul_le_mul_of_nonneg_right (magnitude_le hpos)
        (Rat.le_of_lt (two_zpow_pos (-53)))
      rwa [← Rat.zpow_add (by decide)] at hle
    constructor
    · grind
    · grind
  · decide +kernel

theorem significant_nonneg (x : Rat) : 0 ≤ significant x := by
  rw [significant]
  split
  · exact Rat.le_refl
  next hx =>
    have hpos := two_zpow_pos (magnitude x - 52)
    have hquot : (0 : Int) ≤ nearest (x / 2 ^ (magnitude x - 52)) := by
      apply le_nearest
      rw [Rat.div_def]
      exact Rat.mul_nonneg (Rat.le_of_lt (Rat.not_le.mp hx)) (Rat.le_of_lt (Rat.inv_pos.mpr hpos))
    exact Rat.mul_nonneg (Rat.intCast_nonneg.mpr hquot) (Rat.le_of_lt hpos)

theorem exists_two_zpow_mul (n : Nat) (e : Int) : ∃ k : Nat, (k : Rat) * 2 ^ e = 2 ^ (n + e) := by
  obtain ⟨k, -, hk⟩ := exists_two_zpow n
  refine ⟨k, ?_⟩
  rw [← hk, Rat.zpow_add (by decide)]

theorem significant_bounds (h : 0 < x) :
    2 ^ magnitude x ≤ significant x ∧ significant x ≤ 2 ^ (magnitude x + 1) := by
  have hunit := two_zpow_pos (magnitude x - 52)
  obtain ⟨k, hk⟩ := exists_two_zpow_mul 52 (magnitude x - 52)
  obtain ⟨l, hl⟩ := exists_two_zpow_mul 53 (magnitude x - 52)
  have hsum : ((52 : Nat) : Int) + (magnitude x - 52) = magnitude x ∧
      ((53 : Nat) : Int) + (magnitude x - 52) = magnitude x + 1 := by omega
  rw [hsum.1, ← Rat.intCast_natCast] at hk
  rw [hsum.2, ← Rat.intCast_natCast] at hl
  have hlow : (k : Int) ≤ nearest (x / 2 ^ (magnitude x - 52)) := by
    apply le_nearest
    apply Rat.le_of_mul_le_mul_right _ hunit
    rw [hk, Rat.div_mul_cancel (Rat.ne_of_gt hunit)]
    exact magnitude_le h
  have hhigh : nearest (x / 2 ^ (magnitude x - 52)) ≤ l := by
    have hquot : x / 2 ^ (magnitude x - 52) < (l : Int) := by
      rw [Rat.div_lt_iff hunit, hl]
      exact lt_of_magnitude h
    apply Int.le_of_lt_add_one
    apply nearest_lt
    rw [Rat.intCast_add]
    grind
  rw [significant, if_neg (Rat.not_le.mpr h), ← hk, ← hl]
  have hle := Rat.le_of_lt hunit
  exact ⟨Rat.mul_le_mul_of_nonneg_right (Rat.intCast_le_intCast.mpr hlow) hle,
    Rat.mul_le_mul_of_nonneg_right (Rat.intCast_le_intCast.mpr hhigh) hle⟩

theorem significant_mono (h : x ≤ y) : significant x ≤ significant y := by
  by_cases hx : x ≤ 0
  · rw [significant, if_pos hx]
    exact significant_nonneg y
  have hpos : 0 < x := Rat.not_le.mp hx
  have hpos' : 0 < y := by grind
  have hpow : magnitude x < magnitude y + 1 := by
    apply magnitude_lt hpos
    have hlt := lt_of_magnitude hpos'
    grind
  obtain hlt | heq : magnitude x + 1 ≤ magnitude y ∨ magnitude x = magnitude y := by omega
  · -- A power of two stands between the two.
    have hle := two_zpow_le hlt
    have hlow := significant_bounds hpos
    have hhigh := significant_bounds hpos'
    grind
  · have hunit := Rat.le_of_lt (two_zpow_pos (magnitude y - 52))
    have hquot : x / 2 ^ (magnitude y - 52) ≤ y / 2 ^ (magnitude y - 52) := by
      rw [Rat.div_def, Rat.div_def]
      exact Rat.mul_le_mul_of_nonneg_right h (Rat.le_of_lt (Rat.inv_pos.mpr (two_zpow_pos _)))
    rw [significant, significant, if_neg hx, if_neg (Rat.not_le.mpr hpos'), heq]
    exact Rat.mul_le_mul_of_nonneg_right (Rat.intCast_le_intCast.mpr (nearest_mono hquot)) hunit

/-- From 53 bits on there are whole numbers only. -/
theorem significant_add_one_le {n : Nat} (hn : (2 : Rat) ^ (53 : Int) ≤ n)
    (h : significant x < n) : significant x + 1 ≤ n := by
  have hfew : (2 : Rat) ^ (52 : Int) + 2 ≤ 2 ^ (53 : Int) := by decide +kernel
  by_cases hx : x ≤ 0
  · rw [significant, if_pos hx]
    have hpos := two_zpow_pos 52
    grind
  · rw [significant, if_neg hx] at h ⊢
    by_cases he : 52 ≤ magnitude x
    · obtain ⟨m, hm⟩ := Int.eq_ofNat_of_zero_le (Int.sub_nonneg_of_le he)
      obtain ⟨k, -, hk⟩ := exists_two_zpow m
      simp only [hm, hk] at h ⊢
      rw [← Rat.intCast_natCast, ← Rat.intCast_natCast n, ← Rat.intCast_mul] at h ⊢
      have hlt := Rat.intCast_le_intCast.mpr (Int.add_one_le_of_lt (Rat.intCast_lt_intCast.mp h))
      rwa [Rat.intCast_add] at hlt
    · have hunit := two_zpow_pos (magnitude x - 52)
      have hlt := lt_of_magnitude (Rat.not_le.mp hx)
      have hle : (2 : Rat) ^ (magnitude x + 1) ≤ 2 ^ (52 : Int) := two_zpow_le (by omega)
      have hone : (2 : Rat) ^ (magnitude x - 52) ≤ 2 ^ (0 : Int) := two_zpow_le (by omega)
      rw [Rat.zpow_zero] at hone
      have hround := Rat.mul_le_mul_of_nonneg_right
        (nearest_le (x / 2 ^ (magnitude x - 52))) (Rat.le_of_lt hunit)
      rw [Rat.add_mul, Rat.div_mul_cancel (Rat.ne_of_gt hunit)] at hround
      grind

end Rounding

end ScrapeCourier
