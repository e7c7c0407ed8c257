import ScrapeCourier.Proofs.Cut
import ScrapeCourier.Proofs.Digits
import ScrapeCourier.Proofs.Octet
import ScrapeCourier.Proofs.Timeouts
import ScrapeCourier.Proofs.WaitGrowth

namespace ScrapeCourier

/-- Digits, and any number of them behind a point. -/
structure PlainDecimal where
  whole : List Char
  fraction : Option (List Char)
  whole_ne_nil : whole ≠ []
  whole_digits : ∀ c ∈ whole, Ascii.isDigit c
  fraction_digits : ∀ t ∈ fraction, ∀ c ∈ t, Ascii.isDigit c

namespace PlainDecimal

variable (x : PlainDecimal)

def fractionDigits : List Char := x.fraction.getD []

def places : Nat := x.fractionDigits.length

def text : List Char := x.whole ++ (x.fraction.map ('.' :: ·)).getD []

def number : Rat := Unsigned.value x.whole + Unsigned.value x.fractionDigits / 10 ^ x.places

/-- What the reader makes of it. -/
def decimal : Decimal :=
  ⟨false, Unsigned.value (x.whole ++ x.fractionDigits), -(x.places : Int)⟩

theorem readSign_text : Decimal.readSign x.text = (false, x.text) := by
  obtain ⟨c, s, hs⟩ := List.exists_cons_of_ne_nil x.whole_ne_nil
  have hc := x.whole_digits c (hs ▸ List.mem_cons_self)
  rw [text, hs, List.cons_append]
  unfold Decimal.readSign
  split
  next h =>
    cases h
    cases hc
  next h =>
    cases h
    cases hc
  · rfl

theorem read?_text : Decimal.read? x.text = some x.decimal := by
  have hwhole : x.whole.isEmpty = false := List.isEmpty_eq_false_iff.mpr x.whole_ne_nil
  simp only [Decimal.read?, x.readSign_text]
  rw [text, decimal, places, fractionDigits]
  cases hf : x.fraction with
  | none =>
    obtain ⟨htake, hdrop⟩ := Cut.span_append x.whole_digits (t := []) nofun
    simp only [Option.map_none, Option.getD_none, htake, hdrop]
    simp [hwhole, Decimal.readExponent?]
  | some t =>
    have hpoint : ∀ c, ('.' :: t).head? = some c → Ascii.isDigit c = false := by
      rintro c ⟨⟩
      rfl
    obtain ⟨htake, hdrop⟩ := Cut.span_append x.whole_digits hpoint
    have hfraction := Cut.span_append (x.fraction_digits t hf) (t := []) nofun
    rw [List.append_nil] at hfraction
    simp only [Option.map_some, Option.getD_some, htake, hdrop, hfraction.1, hfraction.2]
    simp [hwhole, Decimal.readExponent?]

theorem magnitude_decimal : x.decimal.magnitude = x.number := by
  have hdigits : Unsigned.value (x.whole ++ x.fractionDigits) =
      Unsigned.value x.whole * 10 ^ x.places + Unsigned.value x.fractionDigits :=
    Unsigned.value_append_eq _ _
  have hpow : (10 : Rat) ^ x.places ≠ 0 := Rat.ne_of_gt (Rat.pow_pos (by decide))
  have hmagnitude : x.decimal.magnitude =
      (Unsigned.value (x.whole ++ x.fractionDigits) : Nat) * 10 ^ (-(x.places : Int)) := rfl
  rw [hmagnitude, hdigits, number, Rat.zpow_neg, Rat.zpow_natCast, ← Rat.div_def, Rat.natCast_add,
    Rat.natCast_mul, Rat.natCast_pow]
  grind

theorem exists_nanos (h : x.places ≤ 9) : ∃ n : Nat, (n : Rat) = x.number * 1_000_000_000 := by
  obtain ⟨k, hk⟩ := Nat.exists_eq_add_of_le h
  refine ⟨Unsigned.value x.whole * 10 ^ 9 + Unsigned.value x.fractionDigits * 10 ^ k, ?_⟩
  have hpow : (10 : Rat) ^ x.places ≠ 0 := Rat.ne_of_gt (Rat.pow_pos (by decide))
  have hnine : ((10 ^ x.places * 10 ^ k : Nat) : Rat) = (10 ^ 9 : Nat) := by
    rw [← Nat.pow_add, ← hk]
  simp only [Rat.natCast_mul, Rat.natCast_pow] at hnine
  rw [number, Rat.natCast_add, Rat.natCast_mul, Rat.natCast_mul, Rat.natCast_pow, Rat.natCast_pow]
  grind

theorem number_nonneg : 0 ≤ x.number := by
  have hpow : (0 : Rat) < 10 ^ x.places := Rat.pow_pos (by decide)
  rw [number, Rat.div_def]
  exact Rat.add_nonneg Rat.natCast_nonneg
    (Rat.mul_nonneg Rat.natCast_nonneg (Rat.le_of_lt (Rat.inv_pos.mpr hpow)))

end PlainDecimal

namespace Decimal

variable {n : Decimal} {s : Rat}

theorem pow_height_le (h : n.digits ≠ 0) : 10 ^ n.height ≤ n.magnitude * 10 := by
  have hle := Rat.mul_le_mul_of_nonneg_right
    (Rat.natCast_le_natCast.mpr (Unsigned.pow_length_text_le h))
    (Rat.le_of_lt (ten_zpow_pos n.exponent))
  rw [Rat.natCast_mul] at hle
  rw [magnitude, pow_height]
  grind

/-- What is taken for zero is no nanosecond. -/
theorem nearest_of_seconds? (hn : 0 ≤ n.magnitude) (h : n.seconds? = some s) :
    Rounding.nearest (s * 1_000_000_000) =
      Rounding.nearest (Rounding.significant n.magnitude * 1_000_000_000) := by
  obtain ⟨rfl, hle⟩ | ⟨-, rfl⟩ := seconds?_cases h
  · have hround := Rounding.significant_error hn
    have hpos := Rounding.significant_nonneg n.magnitude
    have hten : (10 : Rat) ^ (-10 : Int) = 1 / 10_000_000_000 := by decide +kernel
    rw [Rounding.unit_eq] at hround
    rw [hten] at hle
    have hzero : Rounding.nearest (0 * 1_000_000_000) = 0 := by decide +kernel
    rw [hzero, Rounding.nearest_eq]
    · grind
    · grind
  · rfl

theorem exists_seconds? (hn : n.negative = false) (h : n.magnitude < 10 ^ (30 : Int)) :
    ∃ s, n.seconds? = some s := by
  rw [seconds?, hn]
  split
  · exact ⟨0, rfl⟩
  next hzero =>
    rw [Bool.or_eq_true, not_or, decide_eq_true_eq] at hzero
    have hheight : ¬30 < n.height := by
      intro hheight
      have hle := pow_height_le hzero.1
      have hpow : (10 : Rat) ^ (31 : Int) ≤ 10 ^ n.height :=
        Rounding.zpow_le_zpow (b := 10) (by decide) hheight
      have hten : (10 : Rat) ^ (31 : Int) = 10 ^ (30 : Int) * 10 := by decide +kernel
      grind
    rw [if_neg hheight]
    split
    · exact ⟨0, rfl⟩
    · exact ⟨_, rfl⟩

end Decimal

namespace PlainDecimal

variable {x y : PlainDecimal} {d e : Duration}

def span? (x : PlainDecimal) : Option Duration := x.decimal.seconds?.bind Duration.ofRat?

theorem of_span? (h : x.span? = some d) :
    d.nanos = (Rounding.nearest (Rounding.significant x.number * 1_000_000_000)).toNat := by
  obtain ⟨s, hs, hd⟩ := Option.bind_eq_some_iff.mp h
  have hround := Decimal.nearest_of_seconds? (x.magnitude_decimal ▸ x.number_nonneg) hs
  obtain hnone | ⟨e, he, hnanos⟩ := Duration.ofRat?_cases s
  · cases hnone.symm.trans hd
  · cases he.symm.trans hd
    rw [hnanos, hround, magnitude_decimal]

theorem nanos_le (h : x.number ≤ y.number) (hx : x.span? = some d) (hy : y.span? = some e) :
    d.nanos ≤ e.nanos := by
  rw [of_span? hx, of_span? hy]
  apply Int.toNat_le_toNat
  apply Rounding.nearest_mono
  exact Rat.mul_le_mul_of_nonneg_right (Rounding.significant_mono h) (by decide +kernel)

theorem exists_span? (h : x.number < 2 ^ (64 : Int) - 2 ^ (10 : Int)) : ∃ d, x.span? = some d := by
  have hsize : ((UInt64.size : Nat) : Rat) = 2 ^ (64 : Int) := by decide +kernel
  have hten : (2 : Rat) ^ (64 : Int) < 10 ^ (30 : Int) := by decide +kernel
  have hunit : (0 : Rat) < 2 ^ (10 : Int) := Rounding.two_zpow_pos 10
  have hlt : x.decimal.magnitude < 10 ^ (30 : Int) := by
    rw [magnitude_decimal]
    grind
  obtain ⟨s, hs⟩ := Decimal.exists_seconds? rfl hlt
  -- Half a unit is `2 ^ 10` there, so that the limit itself is not reached.
  have hnear : Rounding.significant x.number < (UInt64.size : Nat) := by
    have hle := Rounding.significant_near_of_lt (e := 64) x.number_nonneg (by grind)
    change _ ∧ _ ≤ x.number + 2 ^ (10 : Int) at hle
    grind
  have hroom : 0 ≤ s ∧ s + 1 ≤ (UInt64.size : Nat) := by
    obtain ⟨rfl, -⟩ | ⟨-, rfl⟩ := Decimal.seconds?_cases hs
    · decide +kernel
    · rw [magnitude_decimal]
      exact ⟨Rounding.significant_nonneg _,
        Rounding.significant_add_one_le (by decide +kernel) hnear⟩
  obtain ⟨d, hd, -⟩ := Duration.exists_ofRat? (Nat.le_refl _) hroom.1 hroom.2
  exact ⟨d, Option.bind_eq_some_iff.mpr ⟨s, hs, hd⟩⟩

/-- Half a unit below the limit the even neighbour is the limit. -/
theorem span?_eq_none (h : 2 ^ (64 : Int) - 2 ^ (10 : Int) ≤ x.number) : x.span? = none := by
  have hlimit : (UInt64.size : Nat) ≤ Rounding.significant x.number := by
    have hround : Rounding.significant (2 ^ (64 : Int) - 2 ^ (10 : Int)) = (UInt64.size : Nat) := by
      decide +kernel
    rw [← hround]
    exact Rounding.significant_mono h
  have hsmall : (10 : Rat) ^ (-10 : Int) < 2 ^ (64 : Int) - 2 ^ (10 : Int) := by decide +kernel
  rw [span?, Option.bind_eq_none_iff]
  intro s hs
  obtain ⟨-, hle⟩ | ⟨-, rfl⟩ := Decimal.seconds?_cases hs
  · rw [magnitude_decimal] at hle
    grind
  · rw [magnitude_decimal]
    exact Duration.ofRat?_of_size_le hlimit

/-- Half a unit is less than half a nanosecond. -/
theorem nanos_eq (hp : x.places ≤ 9) (h : x.number < 2 ^ (23 : Int)) (hd : x.span? = some d) :
    (d.nanos : Rat) = x.number * 1_000_000_000 := by
  obtain ⟨n, hn⟩ := x.exists_nanos hp
  have hunit : (2 : Rat) ^ (23 - 54 : Int) * 1_000_000_000 < 1 / 2 := by decide +kernel
  have hnear := Rounding.significant_near_of_lt (e := 23) x.number_nonneg h
  have hnearest : Rounding.nearest (Rounding.significant x.number * 1_000_000_000) = n := by
    apply Rounding.nearest_eq
    · rw [Rat.intCast_natCast]
      grind
    · rw [Rat.intCast_natCast]
      grind
  rw [of_span? hd, hnearest, Int.toNat_natCast, hn]

/-- The texts of a plain decimal: there may be spaces and tabs around it. -/
def IsSpelled (x : PlainDecimal) (s : List Char) : Prop :=
  ∃ before after, s = before ++ x.text ++ after ∧ ∀ c ∈ before ++ after, c = ' ' ∨ c = '\t'

theorem isDigit_or_of_mem_text {c : Char} (h : c ∈ x.text) : Ascii.isDigit c ∨ c = '.' := by
  obtain h | h := List.mem_append.mp h
  · exact .inl (x.whole_digits c h)
  · cases hf : x.fraction with
    | none =>
      rw [hf] at h
      cases h
    | some t =>
      rw [hf] at h
      obtain rfl | h := List.mem_cons.mp h
      · exact .inr rfl
      · exact .inl (x.fraction_digits t hf c h)

theorem range_of_mem_text {c : Char} (h : c ∈ x.text) : 0x21 ≤ c.toNat ∧ c.toNat < 0x7F := by
  obtain h | rfl := isDigit_or_of_mem_text h
  · rw [Unsigned.isDigit_iff] at h
    omega
  · decide

theorem range_of_isSpelled {s : List Char} (h : x.IsSpelled s) {c : Char} (hc : c ∈ s) :
    c = '\t' ∨ 0x20 ≤ c.toNat ∧ c.toNat < 0x7F := by
  obtain ⟨before, after, rfl, hblank⟩ := h
  have hspace (hc : c ∈ before ++ after) : c = '\t' ∨ 0x20 ≤ c.toNat ∧ c.toNat < 0x7F := by
    obtain rfl | rfl := hblank c hc
    · decide
    · decide
  obtain hc | hc := List.mem_append.mp hc
  · obtain hc | hc := List.mem_append.mp hc
    · exact hspace (List.mem_append_left _ hc)
    · obtain ⟨hle, hlt⟩ := range_of_mem_text hc
      exact .inr ⟨Nat.le_of_succ_le hle, hlt⟩
  · exact hspace (List.mem_append_right _ hc)

end PlainDecimal

theorem Blank.trim_append {before s after : List Char} (hb : ∀ c ∈ before, isBlank c)
    (hs : ∀ c ∈ s, isBlank c = false) (hne : s ≠ []) (ha : ∀ c ∈ after, isBlank c) :
    trim (before ++ s ++ after) = s := by
  have hstart : trimStart (before ++ s ++ after) = s ++ after := by
    obtain ⟨c, t, rfl⟩ := List.exists_cons_of_ne_nil hne
    rw [trimStart, List.append_assoc, List.dropWhile_append_of_pos hb, List.cons_append]
    exact List.dropWhile_cons_of_neg (Bool.eq_false_iff.mp (hs c List.mem_cons_self))
  have hend : (s ++ after).reverse.dropWhile isBlank = s.reverse := by
    rw [List.reverse_append,
      List.dropWhile_append_of_pos fun c hc => ha c (List.mem_reverse.mp hc)]
    exact Cut.dropWhile_of_forall fun c hc => hs c (List.mem_reverse.mp hc)
  rw [trim, hstart, trimEnd, hend, List.reverse_reverse]

theorem PlainDecimal.trim_of_isSpelled {x : PlainDecimal} {s : List Char} (h : x.IsSpelled s) :
    Blank.trim s = x.text := by
  obtain ⟨before, after, rfl, hblank⟩ := h
  have hspace : ∀ c ∈ before ++ after, Blank.isBlank c := by
    intro c hc
    obtain rfl | rfl := hblank c hc
    · rfl
    · rfl
  have htext : ∀ c ∈ x.text, Blank.isBlank c = false := by
    intro c hc
    have hrange := range_of_mem_text hc
    simp only [Blank.isBlank]
    grind
  rw [List.forall_mem_append] at hspace
  exact Blank.trim_append hspace.1 htext
    (List.append_ne_nil_of_left_ne_nil x.whole_ne_nil _) hspace.2

namespace Http

theorem FieldValue.text?_of_encode {v : FieldValue} {s : List Char} (hv : v.octets = Utf8.encode s)
    (hs : ∀ c ∈ s, c = '\t' ∨ 0x20 ≤ c.toNat ∧ c.toNat < 0x7F) : v.text? = some s := by
  have hascii : ∀ c ∈ s, c.toNat < 0x80 := by
    intro c hc
    obtain rfl | ⟨-, hlt⟩ := hs c hc
    · decide
    · exact Nat.lt_trans hlt (by decide)
  have key : ∀ n < 0x80, n = 9 ∨ 0x20 ≤ n ∧ n < 0x7F → Octet.isVisible n.toUInt8 := by decide
  have hvisible : v.octets.all Octet.isVisible := by
    rw [hv, Utf8.encode_of_ascii hascii, List.all_map, List.all_eq_true]
    intro c hc
    refine key c.toNat (hascii c hc) ((hs c hc).imp_left ?_)
    rintro rfl
    rfl
  rw [text?, if_pos hvisible, hv, Utf8.toChars_encode_of_ascii hascii]

end Http

namespace Job

variable {j : Job} {s : List Char} {x : PlainDecimal}

/-- The timeout of the job is written as a plain decimal. -/
structure AsksFor (j : Job) (s : List Char) (x : PlainDecimal) : Prop where
  field : ∃ v, j.fields.first? timeoutField = some v ∧ v.octets = Utf8.encode s
  spelled : x.IsSpelled s

theorem timeout_eq (h : j.AsksFor s x) : j.timeout = match x.span? with
    | some d => .ok d
    | none => .error (.badTimeout s) := by
  obtain ⟨⟨v, hv, hoctets⟩, hs⟩ := h
  have hread : readTimeout? s = x.span? := by
    rw [readTimeout?, PlainDecimal.trim_of_isSpelled hs, x.read?_text]
    rfl
  have htext : v.text? = some s := by
    apply Http.FieldValue.text?_of_encode hoctets
    exact fun c hc => PlainDecimal.range_of_isSpelled hs hc
  cases hspan : x.span? with
  | none => simp only [timeout, hv, htext, hread, hspan]
  | some d => simp only [timeout, hv, htext, hread, hspan]

/-- A plain decimal below `2 ^ 23` seconds with nanoseconds at most is taken as it is. The larger of
two numbers gives no shorter span. From half a unit below `2 ^ 64` seconds on there is none. -/
theorem timeout_of_asksFor (h : j.AsksFor s x) :
    (x.places ≤ 9 → x.number < 2 ^ (23 : Int) →
      ∃ d, j.timeout = .ok d ∧ (d.nanos : Rat) = x.number * 1_000_000_000) ∧
    (∀ (k : Job) (t : List Char) (y : PlainDecimal) (d e : Duration), k.AsksFor t y →
      x.number ≤ y.number → j.timeout = .ok d → k.timeout = .ok e → d.nanos ≤ e.nanos) ∧
    (x.number < 2 ^ (64 : Int) - 2 ^ (10 : Int) → ∃ d, j.timeout = .ok d) ∧
    (2 ^ (64 : Int) - 2 ^ (10 : Int) ≤ x.number → j.timeout = .error (.badTimeout s)) := by
  have hok {k : Job} {t : List Char} {y : PlainDecimal} {e : Duration} (hk : k.AsksFor t y) :
      k.timeout = .ok e ↔ y.span? = some e := by
    rw [timeout_eq hk]
    cases y.span? with
    | none => exact iff_of_false nofun nofun
    | some d => rw [Except.ok.injEq, Option.some_inj]
  refine ⟨fun hp hlt => ?_, fun k t y d e hk hle hd he => ?_, fun hlt => ?_, fun hle => ?_⟩
  · have hlimit : (2 : Rat) ^ (23 : Int) < 2 ^ (64 : Int) - 2 ^ (10 : Int) := by decide +kernel
    obtain ⟨d, hd⟩ := PlainDecimal.exists_span? (x := x) (by grind)
    exact ⟨d, (hok h).mpr hd, PlainDecimal.nanos_eq hp hlt hd⟩
  · exact PlainDecimal.nanos_le hle ((hok h).mp hd) ((hok hk).mp he)
  · obtain ⟨d, hd⟩ := PlainDecimal.exists_span? hlt
    exact ⟨d, (hok h).mpr hd⟩
  · rw [timeout_eq h, PlainDecimal.span?_eq_none hle]

/-- From `2 ^ 23` seconds on a unit is more than a nanosecond. -/
example : (readTimeout? "8388608.000000001".toList).map (·.nanos) = some 8388608000000002 := by
  decide +kernel

namespace PlainExample

def lastKept : PlainDecimal where
  whole := "008388607".toList
  fraction := some "999999999".toList
  whole_ne_nil := by decide
  whole_digits := by decide
  fraction_digits := by simp; decide

def lastKeptText : List Char := "\t 008388607.999999999 ".toList

def firstRefused : PlainDecimal where
  whole := "18446744073709550592".toList
  fraction := none
  whole_ne_nil := by decide
  whole_digits := by decide
  fraction_digits := nofun

def job (s : List Char) (hs : (Utf8.encode s).all Http.isFieldOctet) : Job where
  id := .empty
  method := .get
  url := { scheme := "http".toList, path := .segments [[]] }
  port := none
  fields := ⟨[⟨timeoutField, { octets := Utf8.encode s, valid := hs }, []⟩], by simp⟩
  body := []

end PlainExample

open PlainExample in
theorem timeout_of_asksFor_limits :
    (∃ d, (job lastKeptText (by decide)).timeout = .ok d ∧ d.nanos = 8388607999999999) ∧
      (job firstRefused.text (by decide)).timeout = .error (.badTimeout firstRefused.text) := by
  have hkept : (job lastKeptText (by decide)).AsksFor lastKeptText lastKept :=
    ⟨⟨_, rfl, rfl⟩, "\t ".toList, " ".toList, rfl, by decide⟩
  have hrefused : (job firstRefused.text (by decide)).AsksFor firstRefused.text firstRefused :=
    ⟨⟨_, rfl, rfl⟩, [], [], rfl, nofun⟩
  have hnumber : lastKept.number < 2 ^ (23 : Int) ∧
      lastKept.number * 1_000_000_000 = (8388607999999999 : Nat) := by
    decide +kernel
  obtain ⟨d, hd, hnanos⟩ := (timeout_of_asksFor hkept).1 (by decide) hnumber.1
  rw [hnumber.2, Rat.natCast_inj] at hnanos
  exact ⟨⟨d, hd, hnanos⟩, (timeout_of_asksFor hrefused).2.2.2 (by decide +kernel)⟩

end Job

end ScrapeCourier
