import ScrapeCourier.Proofs.Checked
import ScrapeCourier.Proofs.Digits
import ScrapeCourier.Proofs.Rounding
import ScrapeCourier.Scrape.Job

namespace ScrapeCourier

open Http

namespace Decimal

variable {n : Decimal} {x : Rat}

theorem ten_zpow_pos (e : Int) : (0 : Rat) < 10 ^ e := Rat.zpow_pos (by decide)

theorem pow_height (n : Decimal) :
    (10 : Rat) ^ n.height = (10 ^ (Unsigned.text n.digits).length : Nat) * 10 ^ n.exponent := by
  rw [height, Rat.zpow_add (by decide), Rat.zpow_natCast, Rat.natCast_pow]
  rfl

theorem magnitude_lt (n : Decimal) : n.magnitude < 10 ^ n.height := by
  rw [magnitude, pow_height]
  exact Rat.mul_lt_mul_of_pos_right (Rat.natCast_lt_natCast.mpr (Unsigned.lt_pow_length_text _))
    (ten_zpow_pos _)

/-- A number is next to nothing and taken for zero, or it is rounded to 53 bits. -/
theorem seconds?_cases (h : n.seconds? = some x) : x = 0 ∧ n.magnitude ≤ 10 ^ (-10 : Int) ∨
    n.negative = false ∧ x = Rounding.significant n.magnitude := by
  rw [seconds?] at h
  split at h
  next hzero =>
    refine .inl ⟨(Option.some.inj h).symm, ?_⟩
    rw [Bool.or_eq_true, decide_eq_true_eq, decide_eq_true_eq] at hzero
    obtain hzero | hheight := hzero
    · have hnone : n.magnitude = 0 := by
        rw [magnitude, hzero]
        exact Rat.zero_mul _
      rw [hnone]
      exact Rat.le_of_lt (ten_zpow_pos _)
    · have hlt := n.magnitude_lt
      have hpow : (10 : Rat) ^ n.height ≤ 10 ^ (-10 : Int) :=
        Rounding.zpow_le_zpow (b := 10) (by decide) (by omega)
      grind
  · split at h
    · cases h
    · split at h
      next hle =>
        have hpow : (2 : Rat) ^ (-1075 : Int) ≤ 10 ^ (-10 : Int) := by decide +kernel
        exact .inl ⟨(Option.some.inj h).symm, Rat.le_trans hle hpow⟩
      · split at h
        · cases h
        next hn => exact .inr ⟨(Bool.not_eq_true _).mp hn, (Option.some.inj h).symm⟩

theorem eq_zero_of_negative (hn : n.negative) (h : n.seconds? = some x) : x = 0 := by
  obtain ⟨hx, -⟩ | ⟨hpos, -⟩ := seconds?_cases h
  · exact hx
  · cases hpos.symm.trans hn

end Decimal

namespace Duration

variable {x : Rat} {d : Duration}

theorem ofRat?_zero : ofRat? 0 = some .zero := by decide +kernel

/-- A span of so many seconds goes beyond all points in time, whenever it starts. -/
theorem not_inReach (hx : ((UInt64.size / 2 : Nat) : Rat) ≤ x) (h : ofRat? x = some d)
    (received : Duration) : UInt64.size / 2 * 1_000_000_000 ≤ received.nanos + d.nanos := by
  rw [ofRat?] at h
  split at h
  · cases h
  · rw [ofNanos?] at h
    split at h
    · cases h
      have hnanos : ((UInt64.size / 2 * 1_000_000_000 : Nat) : Int) ≤
          Rounding.nearest (x * 1_000_000_000) := by
        apply Rounding.le_nearest
        rw [Rat.intCast_natCast, Rat.natCast_mul]
        exact Rat.mul_le_mul_of_nonneg_right hx (by decide)
      dsimp only
      omega
    · cases h

theorem exists_ofRat? {n : Nat} (hn : n ≤ UInt64.size) (hx : 0 ≤ x) (hle : x + 1 ≤ n) :
    ∃ d, ofRat? x = some d ∧ d.nanos < n * 1_000_000_000 := by
  have hsize : (n : Rat) ≤ (UInt64.size : Nat) := Rat.natCast_le_natCast.mpr hn
  have hround : Rounding.nearest (x * 1_000_000_000) < ((n * 1_000_000_000 : Nat) : Int) := by
    apply Rounding.nearest_lt
    rw [Rat.intCast_natCast, Rat.natCast_mul]
    grind
  have hpos : 0 < n := by
    apply Rat.natCast_pos.mp
    grind
  have hlt : (Rounding.nearest (x * 1_000_000_000)).toNat < n * 1_000_000_000 := by omega
  have hbound := Nat.lt_of_lt_of_le hlt (Nat.mul_le_mul_right 1_000_000_000 hn)
  refine ⟨⟨_, hbound⟩, ?_, hlt⟩
  rw [ofRat?, if_neg, ofNanos?, dif_pos hbound]
  rw [Bool.or_eq_true, decide_eq_true_eq, decide_eq_true_eq]
  grind

end Duration

namespace Job

variable {j : Job} {received d : Duration}

theorem deadline_eq_ok :
    j.deadline received = .ok d ↔ j.timeout = .ok d ∧ inReach received d := by
  constructor
  · intro h
    obtain ⟨d', ht, h⟩ := bind_eq_ok.mp h
    split at h
    next hr =>
      cases h
      exact ⟨ht, hr⟩
    · cases h
  · rintro ⟨ht, hr⟩
    rw [deadline, ht]
    exact if_pos hr

theorem timeout_eq_ok : j.timeout = .ok d ↔ ∃ v s n x, j.fields.first? timeoutField = some v ∧
    v.text? = some s ∧ Decimal.read? (Blank.trim s) = some n ∧ n.seconds? = some x ∧
      Duration.ofRat? x = some d := by
  have hread (s : List Char) : readTimeout? s = some d ↔ ∃ n x,
      Decimal.read? (Blank.trim s) = some n ∧ n.seconds? = some x ∧
        Duration.ofRat? x = some d := by
    simp [readTimeout?, Option.bind_eq_some_iff]
  constructor
  · intro h
    rw [timeout] at h
    split at h
    · cases h
    next v hv =>
      split at h
      · cases h
      next s hs =>
        split at h
        next d' hd =>
          cases h
          obtain ⟨n, x, hn⟩ := (hread s).mp hd
          exact ⟨v, s, n, x, hv, hs, hn⟩
        · cases h
  · rintro ⟨v, s, n, x, hv, hs, hn⟩
    simp only [timeout, hv, hs, (hread s).mpr ⟨n, x, hn⟩]

/-- There is a deadline for a job if and only if it names a number of seconds for which points in
time have room, counted from the one at which it was received. -/
theorem exists_deadline_iff : (∃ d, j.deadline received = .ok d) ↔ ∃ v s n x d,
    j.fields.first? timeoutField = some v ∧ v.text? = some s ∧
      Decimal.read? (Blank.trim s) = some n ∧ n.seconds? = some x ∧ Duration.ofRat? x = some d ∧
        received.nanos + d.nanos < UInt64.size / 2 * 1_000_000_000 := by
  constructor
  · rintro ⟨d, hd⟩
    obtain ⟨ht, hr⟩ := deadline_eq_ok.mp hd
    obtain ⟨v, s, n, x, hv, hs, hn, hx, hd⟩ := timeout_eq_ok.mp ht
    exact ⟨v, s, n, x, d, hv, hs, hn, hx, hd, of_decide_eq_true hr⟩
  · rintro ⟨v, s, n, x, d, hv, hs, hn, hx, hd, hlt⟩
    exact ⟨d, deadline_eq_ok.mpr
      ⟨timeout_eq_ok.mpr ⟨v, s, n, x, hv, hs, hn, hx, hd⟩, decide_eq_true hlt⟩⟩

theorem exists_deadline_iff_of_read {v : FieldValue} {s : List Char} {n : Decimal}
    (hv : j.fields.first? timeoutField = some v) (hs : v.text? = some s)
    (hn : Decimal.read? (Blank.trim s) = some n) :
    (∃ d, j.deadline received = .ok d) ↔ ∃ x d, n.seconds? = some x ∧
      Duration.ofRat? x = some d ∧
        received.nanos + d.nanos < UInt64.size / 2 * 1_000_000_000 := by
  rw [exists_deadline_iff]
  constructor
  · rintro ⟨v', s', n', x, d, hv', hs', hn', hrest⟩
    cases hv.symm.trans hv'
    cases hs.symm.trans hs'
    cases hn.symm.trans hn'
    exact ⟨x, d, hrest⟩
  · rintro ⟨x, d, hrest⟩
    exact ⟨v, s, n, x, d, hv, hs, hn, hrest⟩

end Job

end ScrapeCourier
