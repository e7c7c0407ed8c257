import Mathlib.Algebra.Group.Nat.Defs
import ScrapeCourier.Proofs.ChunkSequence

namespace ScrapeCourier.Http.Chunked

def word? (n : Nat) : Option Nat := if n < UInt64.size then some n else none

theorem word?_of_lt {n : Nat} (h : n < UInt64.size) : word? n = some n := if_pos h

/-- The octets from place `i` to place `j`, if both are there. -/
def slice? (s : Octets) (i j : Nat) : Option Octets :=
  if i ≤ j ∧ j ≤ s.length then some ((s.drop i).take (j - i)) else none

theorem slice?_of_le {s : Octets} {i j : Nat} (hi : i ≤ j) (hj : j ≤ s.length) :
    slice? s i j = some ((s.drop i).take (j - i)) := if_pos ⟨hi, hj⟩

theorem length_le_of_slice? {s t : Octets} {i j : Nat} (h : slice? s i j = some t) :
    i + t.length ≤ s.length := by
  rw [slice?] at h
  split at h
  next hij =>
    cases h
    rw [List.length_take, List.length_drop]
    omega
  · cases h

namespace SizeLine

variable {l l' : SizeLine} {b : UInt8}

/-- The step of a size line in words: nothing, if a product or a sum does not fit in one. -/
def stepInWords (l : SizeLine) (b : UInt8) : Option (Option SizeLine) :=
  match l with
  | .digits k n =>
    match Octet.hexValue? b with
    | some d =>
      if k < 16 then do
        let product ← word? (n * 16)
        let sum ← word? (product + d)
        return some (.digits (k + 1) sum)
      else some none
    | none => some (l.step b)
  | _ => some (l.step b)

def Fits : SizeLine → Prop
  | .digits k n => k ≤ 16 ∧ n < 16 ^ k
  | .blanks n => n < UInt64.size
  | .extension n => n < UInt64.size

theorem lt_of_hexValue? {d : Nat} (h : Octet.hexValue? b = some d) : d < 16 := by
  simp only [Octet.hexValue?, Octet.isDigit, Bool.and_eq_true, decide_eq_true_eq,
    UInt8.le_iff_toNat_le] at h
  split at h
  next hb =>
    cases h
    have : b.toNat ≤ 57 := hb.2
    omega
  split at h
  next hb =>
    cases h
    have : b.toNat ≤ 102 := hb.2
    omega
  split at h
  next hb =>
    cases h
    have : b.toNat ≤ 70 := hb.2
    omega
  · cases h

theorem pow_le_size {k : Nat} (h : k ≤ 16) : 16 ^ k ≤ UInt64.size :=
  (Nat.pow_le_pow_right (by decide) h).trans (by decide)

theorem Fits.size_lt (h : l.Fits) : l.size < UInt64.size := by
  cases l with
  | digits k n => exact Nat.lt_of_lt_of_le h.2 (pow_le_size h.1)
  | blanks n => exact h
  | extension n => exact h

theorem sum_lt {n d k : Nat} (hn : n < 16 ^ k) (hd : d < 16) : n * 16 + d < 16 ^ (k + 1) := by
  rw [Nat.pow_succ]
  omega

theorem Fits.step (hl : l.Fits) (h : l.step b = some l') : l'.Fits := by
  have hsize := hl.size_lt
  cases l with
  | digits k n =>
    simp only [SizeLine.step] at h
    split at h
    next d hd =>
      split at h
      next hk =>
        cases h
        exact ⟨hk, sum_lt hl.2 (lt_of_hexValue? hd)⟩
      · cases h
    · split at h
      · cases h
        exact hsize
      · split at h
        · cases h
          exact hsize
        · cases h
  | blanks n =>
    simp only [SizeLine.step] at h
    split at h
    · cases h
      exact hsize
    · split at h
      · cases h
        exact hsize
      · cases h
  | extension n =>
    cases h
    exact hsize

theorem stepInWords_eq (hl : l.Fits) (b : UInt8) : l.stepInWords b = some (l.step b) := by
  cases l with
  | digits k n =>
    cases hd : Octet.hexValue? b with
    | none => simp only [stepInWords, hd]
    | some d =>
      by_cases hk : k < 16
      · have hsum : n * 16 + d < UInt64.size :=
          Nat.lt_of_lt_of_le (sum_lt hl.2 (lt_of_hexValue? hd)) (pow_le_size hk)
        have hproduct : n * 16 < UInt64.size := Nat.lt_of_le_of_lt (Nat.le_add_right _ d) hsum
        simp [stepInWords, SizeLine.step, hd, hk, word?_of_lt hproduct, word?_of_lt hsum]
      · simp only [stepInWords, SizeLine.step, hd, if_neg hk]
  | blanks n => rfl
  | extension n => rfl

end SizeLine

def sizeFromInWords (l : SizeLine) : Octets → Option (Reading Unit Nat)
  | [] => some .incomplete
  | b :: s =>
    if b = Octet.cr then
      match s with
      | [] => some .incomplete
      | c :: t => if c = Octet.lf then some (.done l.size t) else some (.malformed ())
    else match l.stepInWords b with
      | none => none
      | some none => some (.malformed ())
      | some (some l) => sizeFromInWords l s

theorem sizeFromInWords_eq {l : SizeLine} (hl : l.Fits) (s : Octets) :
    sizeFromInWords l s = some (sizeFrom l s) := by
  induction s generalizing l with
  | nil => rfl
  | cons b s ih =>
    rw [sizeFromInWords.eq_def, sizeFrom.eq_def]
    by_cases hb : b = Octet.cr
    · simp only [if_pos hb]
      cases s with
      | nil => rfl
      | cons c t => exact (apply_ite some _ _ _).symm
    · simp only [if_neg hb, SizeLine.stepInWords_eq hl]
      cases hstep : l.step b with
      | none => rfl
      | some l' => exact ih (hl.step hstep)

def sizeInWords : Octets → Option (Reading Unit Nat) := sizeFromInWords (.digits 0 0)

theorem sizeInWords_eq (s : Octets) : sizeInWords s = some (size s) := by
  apply sizeFromInWords_eq
  exact And.intro (Nat.zero_le 16) Nat.one_pos

theorem slice?_of_not_short {t : Octets} {n : Nat} (ht : ¬t.length < n + 2) :
    slice? t 0 n = some (t.take n) ∧ slice? t n (n + 2) = some ((t.drop n).take 2) ∧
      slice? t (n + 2) t.length = some (t.drop (n + 2)) := by
  have hle := Nat.le_of_not_lt ht
  refine ⟨?_, ?_, ?_⟩
  · rw [slice?_of_le (Nat.zero_le n) (Nat.le_of_add_right_le hle), List.drop_zero, Nat.sub_zero]
  · rw [slice?_of_le (Nat.le_add_right n 2) hle, Nat.add_sub_cancel_left]
  · rw [slice?_of_le hle (Nat.le_refl _), List.take_of_length_le]
    rw [List.length_drop]

/-- The reading of a body in words and slices. The sum of a size and the length of a line end is
looked at first, as it need not fit in a word. -/
def bodyInWords (s : Octets) : Option (Reading Unit Octets) :=
  match _h : sizeInWords s with
  | none => none
  | some .incomplete => some .incomplete
  | some (.malformed e) => some (.malformed e)
  | some (.done n t) =>
    if n = 0 then some (.done [] t)
    else match word? (n + 2) with
      | none => some (.malformed ())
      | some stop =>
        if t.length < stop then some .incomplete
        else match slice? t 0 n, slice? t n stop with
          | some data, some mark =>
            if mark ≠ [Octet.cr, Octet.lf] then some (.malformed ())
            else match _h' : slice? t stop t.length with
              | some more => (bodyInWords more).map (·.map (data ++ ·))
              | none => none
          | _, _ => none
termination_by s.length
decreasing_by
  rw [sizeInWords_eq] at _h
  have hlt := length_lt_of_sizeFrom (Option.some.inj _h)
  have hle := length_le_of_slice? _h'
  omega

theorem bodyInWords_of_size {s t : Octets} {n : Nat} (h : size s = .done n t) : bodyInWords s =
    if n = 0 then some (.done [] t)
    else match word? (n + 2) with
      | none => some (.malformed ())
      | some stop =>
        if t.length < stop then some .incomplete
        else match slice? t 0 n, slice? t n stop with
          | some data, some mark =>
            if mark ≠ [Octet.cr, Octet.lf] then some (.malformed ())
            else (slice? t stop t.length).bind fun more =>
              (bodyInWords more).map (·.map (data ++ ·))
          | _, _ => none := by
  have hs := sizeInWords_eq s
  rw [h] at hs
  rw [bodyInWords]
  split
  next hs' => cases hs.symm.trans hs'
  next hs' => cases hs.symm.trans hs'
  next hs' => cases hs.symm.trans hs'
  next hs' =>
    cases hs.symm.trans hs'
    repeat' split
    all_goals simp_all

theorem bodyInWords_of_incomplete {s : Octets} (h : size s = .incomplete) :
    bodyInWords s = some .incomplete := by
  have hs := sizeInWords_eq s
  rw [h] at hs
  rw [bodyInWords]
  split
  next hs' => cases hs.symm.trans hs'
  next hs' => rfl
  next hs' => cases hs.symm.trans hs'
  next hs' => cases hs.symm.trans hs'

theorem bodyInWords_of_malformed {s : Octets} {e : Unit} (h : size s = .malformed e) :
    bodyInWords s = some (.malformed e) := by
  have hs := sizeInWords_eq s
  rw [h] at hs
  rw [bodyInWords]
  split
  next hs' => cases hs.symm.trans hs'
  next hs' => cases hs.symm.trans hs'
  next hs' => rfl
  next hs' => cases hs.symm.trans hs'

theorem body_of_malformed {s : Octets} {e : Unit} (h : size s = .malformed e) :
    Chunked.body s = .malformed e := by
  rw [Chunked.body]
  split
  next hs => cases h.symm.trans hs
  next hs => rfl
  next hs => cases h.symm.trans hs

/-- Nothing is ever too large for a word, and no slice goes beyond the end. -/
theorem bodyInWords_eq (s : Octets) : bodyInWords s = some (Chunked.body s) := by
  induction s using Chunked.body.induct with
  | case1 s hs => rw [bodyInWords_of_incomplete hs, body_of_incomplete hs]
  | case2 s e hs => rw [bodyInWords_of_malformed hs, body_of_malformed hs]
  | case3 s t hs => rw [bodyInWords_of_size hs, body_of_size hs, if_pos rfl, if_pos rfl]
  | case4 s n t hs hn hlt =>
    have hword : word? (n + 2) = none := if_neg (Nat.not_lt_of_le hlt)
    rw [bodyInWords_of_size hs, body_of_size hs, if_neg hn, if_neg hn, if_pos hlt, hword]
  | case5 s n t hs hn hlt ht =>
    have hword := word?_of_lt (Nat.lt_of_not_le hlt)
    rw [bodyInWords_of_size hs, body_of_size hs, if_neg hn, if_neg hn, if_neg hlt, if_pos ht,
      hword]
    exact if_pos ht
  | case6 s n t hs hn hlt ht hend =>
    have hword := word?_of_lt (Nat.lt_of_not_le hlt)
    rw [bodyInWords_of_size hs, body_of_size hs, if_neg hn, if_neg hn, if_neg hlt, if_neg ht,
      if_pos hend, hword]
    simp only [if_neg ht, slice?_of_not_short ht]
    exact if_pos hend
  | case7 s n t hs hn hlt ht hend ih =>
    have hword := word?_of_lt (Nat.lt_of_not_le hlt)
    rw [bodyInWords_of_size hs, body_of_size hs, if_neg hn, if_neg hn, if_neg hlt, if_neg ht,
      if_neg hend, hword]
    simp only [if_neg ht, slice?_of_not_short ht, if_neg hend]
    rw [Option.bind_some, ih]
    rfl

end ScrapeCourier.Http.Chunked
