import ScrapeCourier.Text.Utf8

namespace ScrapeCourier.Utf8

theorem toNat_toUInt8 {n : Nat} (h : n < 256) : n.toUInt8.toNat = n := by
  simpa using h

theorem toUInt8_ne_of_ne {c d : Char} (hc : c.toNat < 0x80) (hd : d.toNat < 0x80) (h : c ≠ d) :
    c.toNat.toUInt8 ≠ d.toNat.toUInt8 := by
  intro he
  have hn := congrArg UInt8.toNat he
  rw [toNat_toUInt8 (by omega), toNat_toUInt8 (by omega)] at hn
  exact h (Char.toNat_inj.mp hn)

theorem toNat_ofNat {n : Nat} (h : n.isValidChar) : (Char.ofNat n).toNat = n := by
  rw [Char.ofNat, dif_pos h]
  rfl

theorem toNat_tail (n : Nat) : (tail n).toNat = 128 + n % 64 := toNat_toUInt8 (by omega)

theorem step_tail {p : Pending} {n : Nat} (hl : p.low ≤ 128 + n % 64)
    (hh : 128 + n % 64 ≤ p.high) :
    p.step (tail n) = if p.owed ≤ 1 then .whole (Char.ofNat (p.bits * 64 + n % 64))
      else .more { bits := p.bits * 64 + n % 64, owed := p.owed - 1 } := by
  have h : (128 + n % 64) % 64 = n % 64 := by omega
  simp [Pending.step, toNat_tail, hl, hh, h]

theorem lead_one {n : Nat} (h : n < 0x80) : lead n.toUInt8 = .whole (Char.ofNat n) := by
  simp only [lead, toNat_toUInt8 (Nat.lt_trans h (by decide : 0x80 < 256))]
  rw [if_pos h]

theorem lead_two {n : Nat} (h₁ : 0x80 ≤ n) (h₂ : n < 0x800) :
    lead (192 + n / 64).toUInt8 = .more { bits := n / 64, owed := 1 } := by
  have e := toNat_toUInt8 (n := 192 + n / 64) (by omega)
  simp only [lead, e]
  rw [if_neg (by omega), if_neg (by omega), if_pos (by omega), Nat.add_sub_cancel_left]

/-- The range of the second octet leaves out what has a shorter form and what is a surrogate. -/
theorem lead_three {n : Nat} (h₁ : 0x800 ≤ n) (h₂ : n < 0x10000)
    (h₃ : n < 0xD800 ∨ 0xDFFF < n) :
    ∃ low high, lead (224 + n / 4096).toUInt8 = .more { bits := n / 4096, owed := 2, low, high } ∧
      low ≤ 128 + n / 64 % 64 ∧ 128 + n / 64 % 64 ≤ high := by
  have e := toNat_toUInt8 (n := 224 + n / 4096) (by omega)
  simp only [lead, e]
  rw [if_neg (by omega), if_neg (by omega), if_neg (by omega)]
  by_cases h0 : n / 4096 = 0
  · exact ⟨0xA0, 0xBF, by rw [if_pos (by omega), h0], by omega, by omega⟩
  · rw [if_neg (by omega)]
    by_cases hd : n / 4096 = 13
    · exact ⟨0x80, 0x9F, by rw [if_pos (by omega), hd], by omega, by omega⟩
    · rw [if_neg (by omega), if_pos (by omega), Nat.add_sub_cancel_left]
      exact ⟨0x80, 0xBF, rfl, by omega, by omega⟩

theorem lead_four {n : Nat} (h₁ : 0x10000 ≤ n) (h₂ : n < 0x110000) :
    ∃ low high, lead (240 + n / 262144).toUInt8 =
        .more { bits := n / 262144, owed := 3, low, high } ∧
      low ≤ 128 + n / 4096 % 64 ∧ 128 + n / 4096 % 64 ≤ high := by
  have e := toNat_toUInt8 (n := 240 + n / 262144) (by omega)
  simp only [lead, e]
  rw [if_neg (by omega), if_neg (by omega), if_neg (by omega), if_neg (by omega),
    if_neg (by omega), if_neg (by omega)]
  by_cases h0 : n / 262144 = 0
  · exact ⟨0x90, 0xBF, by rw [if_pos (by omega), h0], by omega, by omega⟩
  · rw [if_neg (by omega)]
    by_cases h4 : n / 262144 = 4
    · exact ⟨0x80, 0x8F, by rw [if_neg (by omega), if_pos (by omega), h4], by omega, by omega⟩
    · rw [if_pos (by omega), Nat.add_sub_cancel_left]
      exact ⟨0x80, 0xBF, rfl, by omega, by omega⟩

theorem scan_encodeChar (c : Char) (s : Octets) :
    scan none (encodeChar c ++ s) = some c :: scan none s := by
  have hv : c.toNat < 0xD800 ∨ 0xDFFF < c.toNat ∧ c.toNat < 0x110000 := c.valid
  have hc : Char.ofNat c.toNat = c := Char.ofNat_toNat c
  unfold encodeChar
  generalize c.toNat = n at hv hc
  by_cases h1 : n < 0x80
  · simp only [if_pos h1, List.cons_append, List.nil_append, scan, lead_one h1, hc]
  by_cases h2 : n < 0x800
  · have hb : n / 64 * 64 + n % 64 = n := by omega
    simp only [if_neg h1, if_pos h2, List.cons_append, List.nil_append, scan,
      lead_two (Nat.le_of_not_lt h1) h2]
    rw [step_tail (by simp) (by simp only; omega)]
    simp only [Nat.le_refl, if_true, hb, hc]
  by_cases h3 : n < 0x10000
  · obtain ⟨low, high, hl, hlow, hhigh⟩ :=
      lead_three (Nat.le_of_not_lt h2) h3 (hv.imp_right And.left)
    have hb : (n / 4096 * 64 + n / 64 % 64) * 64 + n % 64 = n := by omega
    simp only [if_neg h1, if_neg h2, if_pos h3, List.cons_append, List.nil_append, scan, hl]
    rw [step_tail hlow hhigh]
    simp only [if_neg (by decide : ¬ 2 ≤ 1)]
    rw [step_tail (by simp) (by simp only; omega)]
    simp only [Nat.add_one_sub_one, Nat.le_refl, if_true, hb, hc]
  · obtain ⟨low, high, hl, hlow, hhigh⟩ := lead_four (n := n) (by omega) (by omega)
    have hb : ((n / 262144 * 64 + n / 4096 % 64) * 64 + n / 64 % 64) * 64 + n % 64 = n := by omega
    simp only [if_neg h1, if_neg h2, if_neg h3, List.cons_append, List.nil_append, scan, hl]
    rw [step_tail hlow hhigh]
    simp only [if_neg (by decide : ¬ 3 ≤ 1)]
    rw [step_tail (by simp) (by simp only; omega)]
    simp only [if_neg (by decide : ¬ 3 - 1 ≤ 1)]
    rw [step_tail (by simp) (by simp only; omega)]
    simp only [Nat.add_one_sub_one, Nat.le_refl, if_true, hb, hc]

theorem scan_encode (s : List Char) : scan none (encode s) = s.map some := by
  induction s with
  | nil => rfl
  | cons c s ih =>
    change scan none (encodeChar c ++ encode s) = _
    rw [scan_encodeChar, ih, List.map_cons]

@[simp] theorem decode?_encode (s : List Char) : decode? (encode s) = some s := by
  rw [decode?, scan_encode, List.mapM_map]
  exact (List.mapM_pure (m := Option) (l := s) (f := id)).trans (congrArg some (List.map_id s))

@[simp] theorem encode_nil : encode [] = [] := rfl

@[simp] theorem encode_append (s t : List Char) : encode (s ++ t) = encode s ++ encode t := by
  simp [encode]

theorem encode_cons (c : Char) (s : List Char) : encode (c :: s) = encodeChar c ++ encode s := rfl

theorem encodeChar_ne_nil (c : Char) : encodeChar c ≠ [] := by
  simp only [encodeChar]
  repeat' split
  all_goals exact List.cons_ne_nil _ _

theorem encode_eq_nil {s : List Char} : encode s = [] ↔ s = [] := by
  cases s with
  | nil => simp
  | cons c s => simp [encode_cons, encodeChar_ne_nil]

theorem encodeChar_of_ascii {c : Char} (h : c.toNat < 0x80) : encodeChar c = [c.toNat.toUInt8] := by
  unfold encodeChar
  rw [if_pos h]

theorem le_of_mem_encodeChar {c : Char} (h : 0x80 ≤ c.toNat) {b : UInt8} (hb : b ∈ encodeChar c) :
    0x80 ≤ b.toNat := by
  have hv : c.toNat < 0xD800 ∨ 0xDFFF < c.toNat ∧ c.toNat < 0x110000 := c.valid
  have hl {n : Nat} (h₁ : 0x80 ≤ n) (h₂ : n < 0x100) : 0x80 ≤ n.toUInt8.toNat := by
    rwa [toNat_toUInt8 h₂]
  have ht (n : Nat) : 0x80 ≤ (tail n).toNat := by
    rw [toNat_tail]
    omega
  simp only [encodeChar, if_neg (Nat.not_lt_of_le h)] at hb
  split at hb
  · rcases List.mem_cons.mp hb with rfl | hb
    · exact hl (by omega) (by omega)
    · rw [List.mem_singleton.mp hb]
      exact ht _
  split at hb
  · rcases List.mem_cons.mp hb with rfl | hb
    · exact hl (by omega) (by omega)
    · simp only [List.mem_cons, List.not_mem_nil, or_false] at hb
      rcases hb with rfl | rfl <;> exact ht _
  · rcases List.mem_cons.mp hb with rfl | hb
    · exact hl (by omega) (by omega)
    · simp only [List.mem_cons, List.not_mem_nil, or_false] at hb
      rcases hb with rfl | rfl | rfl <;> exact ht _

theorem encode_of_ascii {s : List Char} (h : ∀ c ∈ s, c.toNat < 0x80) :
    encode s = s.map fun c => c.toNat.toUInt8 := by
  induction s with
  | nil => rfl
  | cons c s ih =>
    rw [encode_cons, encodeChar_of_ascii (h c (by simp)), ih fun d hd => h d (by simp [hd])]
    rfl

theorem toChars_encode_of_ascii {s : List Char} (h : ∀ c ∈ s, c.toNat < 0x80) :
    (encode s).toChars = s := by
  have hc : ∀ c ∈ s, Char.ofNat c.toNat.toUInt8.toNat = c := by
    intro c hc
    rw [toNat_toUInt8 (Nat.lt_trans (h c hc) (by decide)), Char.ofNat_toNat]
  rw [encode_of_ascii h, Octets.toChars, List.map_map]
  exact (List.map_congr_left hc).trans (List.map_id s)

end ScrapeCourier.Utf8
