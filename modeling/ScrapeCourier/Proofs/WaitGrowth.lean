import Mathlib.Data.Nat.Find
import ScrapeCourier.Proofs.Rounding
import ScrapeCourier.Time.Backoff

namespace ScrapeCourier

theorem Rounding.unit_eq : (2 : Rat) ^ (-53 : Int) = 1 / 9007199254740992 := by decide +kernel

namespace Duration

/-- Two roundings follow each other in the seconds of a span. -/
theorem seconds_error (d : Duration) :
    d.nanos - d.nanos * (2 * 2 ^ (-53 : Int)) ≤ d.seconds * 1_000_000_000 ∧
      d.seconds * 1_000_000_000 ≤ d.nanos + d.nanos * (3 * 2 ^ (-53 : Int)) := by
  have hcut : (d.nanos : Rat) = 1_000_000_000 * (d.nanos / 1_000_000_000 : Nat) +
      (d.nanos % 1_000_000_000 : Nat) := by
    have h := congrArg (Nat.cast (R := Rat)) (Nat.div_add_mod d.nanos 1_000_000_000)
    rw [Rat.natCast_add, Rat.natCast_mul] at h
    exact h.symm
  have hrest : (0 : Rat) ≤ (d.nanos % 1_000_000_000 : Nat) / 1_000_000_000 := by
    rw [Rat.div_def]
    exact Rat.mul_nonneg Rat.natCast_nonneg (by decide +kernel)
  have hwhole := Rounding.significant_error (Rat.natCast_nonneg (a := d.nanos / 1_000_000_000))
  have hnanos := Rounding.significant_error hrest
  have hsum := Rounding.significant_error (Rat.add_nonneg
    (Rounding.significant_nonneg (d.nanos / 1_000_000_000 : Nat))
    (Rounding.significant_nonneg ((d.nanos % 1_000_000_000 : Nat) / 1_000_000_000)))
  change _ ≤ seconds d ∧ seconds d ≤ _ at hsum
  rw [Rounding.unit_eq] at hwhole hnanos hsum ⊢
  constructor
  · grind
  · grind

theorem seconds_nonneg (d : Duration) : 0 ≤ d.seconds := Rounding.significant_nonneg _

theorem ext {d e : Duration} (h : d.nanos = e.nanos) : d = e := by
  cases d
  cases h
  rfl

theorem ofRat?_cases (x : Rat) : ofRat? x = none ∨
    ∃ e, ofRat? x = some e ∧ e.nanos = (Rounding.nearest (x * 1_000_000_000)).toNat := by
  rw [ofRat?]
  split
  · exact .inl rfl
  · rw [ofNanos?]
    split
    · exact .inr ⟨_, rfl, rfl⟩
    · exact .inl rfl

theorem ofRat?_of_size_le {x : Rat} (h : (UInt64.size : Rat) ≤ x) : ofRat? x = none := by
  rw [ofRat?, if_pos]
  rw [Bool.or_eq_true, decide_eq_true_eq, decide_eq_true_eq]
  exact .inr h

end Duration

namespace Backoff

variable {longest d : Duration}

def grown (d : Duration) : Rat := Rounding.significant (d.seconds * (3 / 2))

theorem grown_error (d : Duration) :
    d.seconds * (3 / 2) - d.seconds * (3 / 2) * 2 ^ (-53 : Int) ≤ grown d ∧
      grown d ≤ d.seconds * (3 / 2) + d.seconds * (3 / 2) * 2 ^ (-53 : Int) :=
  Rounding.significant_error (Rat.mul_nonneg d.seconds_nonneg (by decide +kernel))

/-- What three roundings leave of half as much again. -/
theorem le_grown (d : Duration) :
    3 / 2 * d.nanos - d.nanos * (5 * 2 ^ (-53 : Int)) ≤ grown d * 1_000_000_000 := by
  have hseconds := d.seconds_error
  have hgrown := grown_error d
  have hnanos : (0 : Rat) ≤ d.nanos := Rat.natCast_nonneg
  rw [Rounding.unit_eq] at hseconds hgrown ⊢
  grind

/-- The number to round is within the range of numbers that have an exponent of eleven bits. -/
theorem grown_range (d : Duration) :
    grown d ≤ 2 ^ (66 : Int) ∧ (0 < d.nanos → 2 ^ (-31 : Int) ≤ grown d) := by
  have hseconds := d.seconds_error
  have hgrown := grown_error d
  have hbound : (d.nanos : Rat) ≤ (UInt64.size * 1_000_000_000 : Nat) :=
    Rat.natCast_le_natCast.mpr (Nat.le_of_lt d.bound)
  have hsize : ((UInt64.size * 1_000_000_000 : Nat) : Rat) = 2 ^ (64 : Int) * 1_000_000_000 := by
    decide +kernel
  have hhigh : (2 : Rat) ^ (66 : Int) = 4 * 2 ^ (64 : Int) := by decide +kernel
  have hlow : (2 : Rat) ^ (-31 : Int) * 1_000_000_000 ≤ 1 / 2 := by decide +kernel
  constructor
  · rw [hhigh]
    rw [Rounding.unit_eq] at hseconds hgrown
    grind
  · intro hpos
    have hone : ((1 : Nat) : Rat) ≤ d.nanos := Rat.natCast_le_natCast.mpr hpos
    have hle := le_grown d
    rw [Rounding.unit_eq] at hle
    grind

/-- Rounding to nanoseconds takes half of one at most, which is less than the growth from two on. -/
theorem lt_nearest_grown (h : 0 < d.nanos) :
    (d.nanos : Int) < Rounding.nearest (grown d * 1_000_000_000) := by
  obtain hone | htwo : d.nanos = 1 ∨ 2 ≤ d.nanos := by omega
  · have hfirst : (1 : Int) < Rounding.nearest (grown ⟨1, by decide⟩ * 1_000_000_000) := by
      decide +kernel
    obtain ⟨n, hn⟩ := d
    cases hone
    exact hfirst
  · have hle := le_grown d
    have hnearest := Rounding.sub_le_nearest (grown d * 1_000_000_000)
    have hnanos : ((2 : Nat) : Rat) ≤ d.nanos := Rat.natCast_le_natCast.mpr htwo
    rw [Rounding.unit_eq] at hle
    apply Rat.intCast_lt_intCast.mp
    rw [Rat.intCast_natCast]
    grind

theorem grow_eq (longest d : Duration) :
    grow longest d = ((Duration.ofRat? (grown d)).getD longest).min longest := rfl

theorem nanos_grow_le (longest d : Duration) : (grow longest d).nanos ≤ longest.nanos := by
  rw [grow_eq, Duration.min]
  split
  next h => exact h
  · exact Nat.le_refl _

theorem lt_grow (longest : Duration) (h : 0 < d.nanos) :
    d.nanos < (grow longest d).nanos ∨ grow longest d = longest := by
  rw [grow_eq]
  obtain hnone | ⟨e, he, hnanos⟩ := Duration.ofRat?_cases (grown d)
  · rw [hnone, Option.getD_none, Duration.min, if_pos (Nat.le_refl _)]
    exact .inr rfl
  · have hlt := lt_nearest_grown h
    rw [he, Option.getD_some, Duration.min]
    split
    · left
      omega
    · exact .inr rfl

theorem grow_of_size_le (longest : Duration) (h : (UInt64.size : Rat) ≤ grown d) :
    grow longest d = longest := by
  rw [grow_eq, Duration.ofRat?_of_size_le h, Option.getD_none, Duration.min, if_pos (Nat.le_refl _)]

theorem grow_zero (longest : Duration) : grow longest .zero = .zero := by
  have hzero : Duration.ofRat? (grown .zero) = some .zero := by decide +kernel
  rw [grow_eq, hzero, Option.getD_some, Duration.min]
  exact if_pos (Nat.zero_le _)

theorem grow_longest (longest : Duration) : grow longest longest = longest := by
  obtain hzero | hpos := Nat.eq_zero_or_pos longest.nanos
  · rw [Duration.ext (e := .zero) hzero, grow_zero]
  · obtain hlt | heq := lt_grow longest hpos
    · exact absurd hlt (Nat.not_lt.mpr (nanos_grow_le longest longest))
    · exact heq

theorem le_grow (h : d.nanos ≤ longest.nanos) : d.nanos ≤ (grow longest d).nanos := by
  obtain hzero | hpos := Nat.eq_zero_or_pos d.nanos
  · rw [hzero]
    exact Nat.zero_le _
  · obtain hlt | heq := lt_grow longest hpos
    · exact Nat.le_of_lt hlt
    · rw [heq]
      exact h

def after (b : Backoff) : Nat → Backoff
  | 0 => b
  | k + 1 => (b.after k).next.2

def wait (b : Backoff) (k : Nat) : Duration := (b.after k).next.1

theorem reset_after (b : Backoff) (k : Nat) : (b.after k).reset = b.reset := by
  induction k with
  | zero => rfl
  | succ k ih => exact ih

theorem longest_after (b : Backoff) (k : Nat) : (b.after k).longest = b.longest := by
  induction k with
  | zero => rfl
  | succ k ih => exact ih

theorem wait_succ (b : Backoff) (k : Nat) : b.wait (k + 1) = grow b.longest (b.wait k) := by
  rw [← b.longest_after k]
  rfl

/-- What is asked of a backoff: the next wait, or to start over. -/
inductive Use
  | next
  | reset
  deriving DecidableEq

def use (b : Backoff) : Use → Backoff
  | .next => b.next.2
  | .reset => b.reset

def uses (b : Backoff) (us : List Use) : Backoff := us.foldl use b

def Use.count : Nat → Use → Nat
  | k, .next => k + 1
  | _, .reset => 0

/-- How many waits have been taken since the last reset. -/
def inRow (us : List Use) : Nat := us.foldl Use.count 0

theorem uses_after {b : Backoff} (hb : b.reset = b) (us : List Use) (k : Nat) :
    (b.after k).uses us = b.after (us.foldl Use.count k) := by
  induction us generalizing k with
  | nil => rfl
  | cons u us ih =>
    cases u with
    | next => exact ih (k + 1)
    | reset =>
      have hreset : (b.after k).use .reset = b.after 0 := (b.reset_after k).trans hb
      rw [uses, List.foldl_cons, hreset]
      exact ih 0

variable {initial : Duration}

theorem nanos_wait_le (initial longest : Duration) (k : Nat) :
    ((start initial longest).wait k).nanos ≤ longest.nanos := by
  cases k with
  | zero =>
    change (initial.min longest).nanos ≤ _
    rw [Duration.min]
    split
    next h => exact h
    · exact Nat.le_refl _
  | succ k =>
    rw [wait_succ]
    exact nanos_grow_le _ _

theorem nanos_wait_le_succ (initial longest : Duration) (k : Nat) :
    ((start initial longest).wait k).nanos ≤ ((start initial longest).wait (k + 1)).nanos := by
  rw [wait_succ]
  exact le_grow (nanos_wait_le initial longest k)

theorem wait_pos (hi : 0 < initial.nanos) (hl : 0 < longest.nanos) (k : Nat) :
    0 < ((start initial longest).wait k).nanos := by
  induction k with
  | zero =>
    change 0 < (initial.min longest).nanos
    rw [Duration.min]
    split
    · exact hi
    · exact hl
  | succ k ih => exact Nat.lt_of_lt_of_le ih (nanos_wait_le_succ initial longest k)

theorem wait_lt_succ (hi : 0 < initial.nanos) (hl : 0 < longest.nanos) {k : Nat}
    (hk : (start initial longest).wait k ≠ longest) :
    ((start initial longest).wait k).nanos < ((start initial longest).wait (k + 1)).nanos := by
  rw [wait_succ]
  obtain hlt | heq := lt_grow longest (wait_pos hi hl k)
  · exact hlt
  · -- The longest wait comes next, and this one is shorter.
    have hle := nanos_wait_le initial longest k
    have hne : ((start initial longest).wait k).nanos ≠ longest.nanos :=
      fun h => hk (Duration.ext h)
    change _ < (grow longest _).nanos
    rw [heq]
    omega

theorem exists_wait_eq (hi : 0 < initial.nanos) (hl : 0 < longest.nanos) :
    ∃ k, (start initial longest).wait k = longest := by
  by_contra hn
  have hne : ∀ k, (start initial longest).wait k ≠ longest := fun k hk => hn ⟨k, hk⟩
  -- The waits grow by a nanosecond at least while none is the longest, which they never pass.
  have hle (k : Nat) : k ≤ ((start initial longest).wait k).nanos := by
    induction k with
    | zero => exact Nat.zero_le _
    | succ k ih => exact Nat.succ_le_of_lt (Nat.lt_of_le_of_lt ih (wait_lt_succ hi hl (hne k)))
  exact absurd (Nat.le_trans (hle (longest.nanos + 1)) (nanos_wait_le initial longest _))
    (Nat.not_succ_le_self _)

theorem wait_eq_of_le {m k : Nat} (hm : (start initial longest).wait m = longest) (h : m ≤ k) :
    (start initial longest).wait k = longest := by
  induction h with
  | refl => exact hm
  | step _ ih =>
    rw [wait_succ, ih]
    exact grow_longest longest

/-- The waits between two resets: from the initial wait on they grow until they are as long as they
may be. -/
structure Climbs (initial longest : Duration) (wait : Nat → Duration) : Prop where
  first : wait 0 = initial.min longest
  bounded : ∀ k, (wait k).nanos ≤ longest.nanos
  ordered : ∀ k, (wait k).nanos ≤ (wait (k + 1)).nanos
  reaches : 0 < initial.nanos → 0 < longest.nanos →
    ∃ n, (∀ k < n, (wait k).nanos < (wait (k + 1)).nanos) ∧ ∀ k, n ≤ k → wait k = longest

theorem climbs_wait (initial longest : Duration) :
    Climbs initial longest (start initial longest).wait := by
  refine ⟨rfl, nanos_wait_le initial longest, nanos_wait_le_succ initial longest, fun hi hl => ?_⟩
  have hex := exists_wait_eq hi hl
  exact ⟨Nat.find hex, fun k hk => wait_lt_succ hi hl (Nat.find_min hex hk),
    fun k hk => wait_eq_of_le (Nat.find_spec hex) hk⟩

/-- Whatever is asked of a backoff, the wait that it gives is the one that as many waits in a row
have led to, and these climb to the longest wait. The number of seconds that a wait is computed from
is zero or has a small exponent, and the longest wait follows where it is too large for a span. -/
theorem wait_uses (initial longest : Duration) :
    Climbs initial longest (start initial longest).wait ∧
      (∀ us, ((start initial longest).uses us).next.1 = (start initial longest).wait (inRow us) ∧
        ((start initial longest).uses us).reset = start initial longest) ∧
      ∀ d, grown d ≤ 2 ^ (66 : Int) ∧ (0 < d.nanos → 2 ^ (-31 : Int) ≤ grown d) ∧
        ((UInt64.size : Rat) ≤ grown d → grow longest d = longest) := by
  refine ⟨climbs_wait initial longest, fun us => ?_, fun d => ?_⟩
  · have huses : (start initial longest).uses us = (start initial longest).after (inRow us) :=
      uses_after rfl us 0
    rw [huses]
    exact ⟨rfl, reset_after _ _⟩
  · exact ⟨(grown_range d).1, (grown_range d).2, grow_of_size_le longest⟩

end Backoff

end ScrapeCourier
