import Mathlib.Algebra.Group.Nat.Defs
import ScrapeCourier.Number.Unsigned
import ScrapeCourier.Proofs.Utf8

namespace ScrapeCourier.Unsigned

theorem toNat_digitChar {d : Nat} (h : d < 10) : (digitChar d).toNat = 48 + d := by
  have hv : (48 + d).isValidChar := Or.inl (by omega)
  exact Utf8.toNat_ofNat hv

theorem digitValue_digitChar {d : Nat} (h : d < 10) : digitValue (digitChar d) = d := by
  rw [digitValue, toNat_digitChar h]
  omega

theorem isDigit_iff (c : Char) : Ascii.isDigit c = true ↔ 48 ≤ c.toNat ∧ c.toNat ≤ 57 := by
  simp only [Ascii.isDigit, Bool.and_eq_true, decide_eq_true_eq]
  exact Iff.rfl

theorem isDigit_digitChar {d : Nat} (h : d < 10) : Ascii.isDigit (digitChar d) := by
  rw [isDigit_iff, toNat_digitChar h]
  omega

theorem all_isDigit_text (n : Nat) : (text n).all Ascii.isDigit := by
  induction n using text.induct with
  | case1 n h => simp [text, h, isDigit_digitChar h]
  | case2 n h ih =>
    rw [text, if_neg h, List.all_append, ih]
    simp [isDigit_digitChar (Nat.mod_lt n (by decide : 10 > 0))]

theorem text_ne_nil (n : Nat) : text n ≠ [] := by
  rw [text]
  split
  · exact List.cons_ne_nil _ _
  · exact List.append_ne_nil_of_right_ne_nil _ (List.cons_ne_nil _ _)

theorem value_append (s t : List Char) :
    value (s ++ t) = t.foldl (fun n c => n * 10 + digitValue c) (value s) := by
  rw [value, List.foldl_append]
  rfl

/-- The digits in front count by the places of those behind. -/
theorem value_append_eq (s t : List Char) :
    value (s ++ t) = value s * 10 ^ t.length + value t := by
  have hfold (n : Nat) : t.foldl (fun n c => n * 10 + digitValue c) n =
      n * 10 ^ t.length + value t := by
    induction t generalizing n with
    | nil => simp [value]
    | cons c t ih =>
      have hvalue : value (c :: t) = digitValue c * 10 ^ t.length + value t := by
        rw [value, List.foldl_cons, ih, Nat.zero_mul, Nat.zero_add]
      rw [List.foldl_cons, ih, hvalue, List.length_cons, Nat.pow_succ]
      grind
  rw [value_append, hfold]

@[simp] theorem value_text (n : Nat) : value (text n) = n := by
  induction n using text.induct with
  | case1 n h => simp [text, h, value, digitValue_digitChar h]
  | case2 n h ih =>
    rw [text, if_neg h, value_append, ih, List.foldl_cons, List.foldl_nil,
      digitValue_digitChar (Nat.mod_lt n (by decide))]
    omega

@[simp] theorem digits?_text (n : Nat) : digits? (text n) = some n := by
  simp [digits?, text_ne_nil, all_isDigit_text]

theorem length_text_succ {n : Nat} (h : ¬n < 10) :
    (text n).length = (text (n / 10)).length + 1 := by
  rw [text, if_neg h, List.length_append, List.length_singleton]

theorem lt_pow_length_text (n : Nat) : n < 10 ^ (text n).length := by
  induction n using text.induct with
  | case1 n h =>
    rw [text, if_pos h]
    exact h
  | case2 n h ih =>
    rw [length_text_succ h, Nat.pow_succ]
    omega

theorem pow_length_text_le {n : Nat} (hn : n ≠ 0) : 10 ^ (text n).length ≤ n * 10 := by
  induction n using text.induct with
  | case1 n h =>
    rw [text, if_pos h]
    exact Nat.mul_le_mul_right 10 (Nat.one_le_iff_ne_zero.mpr hn)
  | case2 n h ih =>
    have hle := ih (by omega)
    rw [length_text_succ h, Nat.pow_succ]
    omega

theorem read?_of_all_isDigit {bound : Nat} {s : List Char} (h : s.all Ascii.isDigit) :
    read? bound s = (digits? s).filter (· < bound) := by
  unfold read?
  split
  · simp [Ascii.isDigit] at h
  · rfl

theorem read?_text {bound n : Nat} (h : n < bound) : read? bound (text n) = some n := by
  rw [read?_of_all_isDigit (all_isDigit_text n), digits?_text]
  simp [h]

theorem ascii_of_isDigit {c : Char} (h : Ascii.isDigit c) : c.toNat < 0x80 := by
  rw [isDigit_iff] at h
  omega

theorem ascii_text (n : Nat) : ∀ c ∈ text n, c.toNat < 0x80 := fun c hc =>
  ascii_of_isDigit (List.all_eq_true.mp (all_isDigit_text n) c hc)

theorem toUInt8_isDigit {c : Char} (h : Ascii.isDigit c) : Octet.isDigit c.toNat.toUInt8 := by
  rw [isDigit_iff] at h
  have e := Utf8.toNat_toUInt8 (n := c.toNat) (by omega)
  simp only [Octet.isDigit, Bool.and_eq_true, decide_eq_true_eq, UInt8.le_iff_toNat_le, e]
  exact h

theorem all_isDigit_encode_text (n : Nat) : (Utf8.encode (text n)).all Octet.isDigit := by
  rw [Utf8.encode_of_ascii (ascii_text n), List.all_map, List.all_eq_true]
  intro c hc
  exact toUInt8_isDigit (List.all_eq_true.mp (all_isDigit_text n) c hc)

theorem encode_text_of_three {n : Nat} (h₁ : 100 ≤ n) (h₂ : n < 1000) :
    Utf8.encode (text n) =
      [(48 + n / 100).toUInt8, (48 + n / 10 % 10).toUInt8, (48 + n % 10).toUInt8] := by
  have e : text n = [digitChar (n / 100), digitChar (n / 10 % 10), digitChar (n % 10)] := by
    rw [text, if_neg (by omega), text, if_neg (by omega), text, if_pos (by omega),
      Nat.div_div_eq_div_mul]
    rfl
  rw [Utf8.encode_of_ascii (ascii_text n), e]
  simp only [List.map_cons, List.map_nil, toNat_digitChar (show n / 100 < 10 by omega),
    toNat_digitChar (Nat.mod_lt (n / 10) (by decide : 10 > 0)),
    toNat_digitChar (Nat.mod_lt n (by decide : 10 > 0))]

end ScrapeCourier.Unsigned
