import ScrapeCourier.Http.Fields
import ScrapeCourier.Proofs.Utf8

namespace ScrapeCourier

namespace Octet

open Http

variable {b : UInt8}

theorem isDigit_iff : isDigit b = true ↔ 48 ≤ b.toNat ∧ b.toNat ≤ 57 := by
  simp [isDigit, UInt8.le_iff_toNat_le]

theorem isUpper_iff : isUpper b = true ↔ 65 ≤ b.toNat ∧ b.toNat ≤ 90 := by
  simp [isUpper, UInt8.le_iff_toNat_le]

theorem isLower_iff : isLower b = true ↔ 97 ≤ b.toNat ∧ b.toNat ≤ 122 := by
  simp [isLower, UInt8.le_iff_toNat_le]

theorem isUpper_sub_of_isLower (h : isLower b) : isUpper (b - 32) := by
  rw [isLower_iff] at h
  have hs : (32 : UInt8) ≤ b := UInt8.le_iff_toNat_le.mpr (by simp; omega)
  rw [isUpper_iff, UInt8.toNat_sub_of_le _ _ hs]
  simp
  omega

theorem toLower_of_not_isUpper (h : isUpper b = false) : toLower b = b := by
  simp [toLower, h]

theorem toLower_toUpper (h : isUpper b = false) : toLower (toUpper b) = b := by
  rw [toUpper]
  split
  next hl => rw [toLower, if_pos (isUpper_sub_of_isLower hl), UInt8.sub_add_cancel]
  · exact toLower_of_not_isUpper h

theorem isToken_toUpper (h : isToken b) : isToken (toUpper b) := by
  rw [toUpper]
  split
  next hl => rw [isToken, isAlpha, isUpper_sub_of_isLower hl, Bool.true_or, Bool.true_or, Bool.true_or]
  · exact h

theorem not_isToken_colon : isToken colon = false := by decide

theorem ne_lf_of_isToken (h : isToken b) : b ≠ lf := by
  rintro rfl
  revert h
  decide

theorem ne_cr_of_isToken (h : isToken b) : b ≠ cr := by
  rintro rfl
  revert h
  decide

theorem isFieldOctet_space : isFieldOctet space := by decide

theorem not_isFieldOctet_cr : isFieldOctet cr = false := by decide

theorem of_range (h₁ : 0x21 ≤ b.toNat) (h₂ : b.toNat < 0x7F) :
    isFieldOctet b ∧ isBlank b = false ∧ isVisible b := by
  have hne {d : UInt8} (hd : d.toNat < 0x21 ∨ 0x7F ≤ d.toNat) : b ≠ d := by
    rintro rfl
    omega
  have hle : (32 : UInt8) ≤ b := UInt8.le_iff_toNat_le.mpr (Nat.le_of_succ_le h₁)
  have hlt : b < (127 : UInt8) := UInt8.lt_iff_toNat_lt.mpr h₂
  have h127 : b ≠ 127 := hne (.inr (Nat.le_refl _))
  have hspace : b ≠ space := hne (.inl (by decide))
  have htab : b ≠ tab := hne (.inl (by decide))
  simp [isFieldOctet, isBlank, isVisible, hle, hlt, h127, hspace, htab]

theorem of_isDigit (h : isDigit b) : isFieldOctet b ∧ isBlank b = false ∧ isVisible b := by
  obtain ⟨h₁, h₂⟩ := isDigit_iff.mp h
  exact of_range (Nat.le_trans (by decide) h₁) (Nat.lt_of_le_of_lt h₂ (by decide))

end Octet

namespace Ascii

theorem range_of_isAlphanum {c : Char} (h : isAlphanum c) : 48 ≤ c.toNat ∧ c.toNat ≤ 122 := by
  have hle {d e : Char} (hd : d ≤ e) : d.toNat ≤ e.toNat := hd
  simp only [isAlphanum, isAlpha, isUpper, isLower, isDigit, Bool.or_eq_true, Bool.and_eq_true,
    decide_eq_true_eq] at h
  obtain (h | h) | h := h
  · exact ⟨Nat.le_trans (by decide) (hle h.1), Nat.le_trans (hle h.2) (by decide)⟩
  · exact ⟨Nat.le_trans (by decide) (hle h.1), Nat.le_trans (hle h.2) (by decide)⟩
  · exact ⟨Nat.le_trans (by decide) (hle h.1), Nat.le_trans (hle h.2) (by decide)⟩

theorem range_of_isSchemeChar {c : Char} (h : isSchemeChar c) :
    43 ≤ c.toNat ∧ c.toNat ≤ 122 := by
  simp only [isSchemeChar, Bool.or_eq_true, beq_iff_eq] at h
  obtain ((h | rfl) | rfl) | rfl := h
  · obtain ⟨hle, hlt⟩ := range_of_isAlphanum h
    exact ⟨Nat.le_trans (by decide) hle, hlt⟩
  · decide
  · decide
  · decide

theorem range_of_contains {c : Char} {l : List Char} {m n : Nat} (h : l.contains c)
    (hl : l.all fun c => m ≤ c.toNat && c.toNat ≤ n) : m ≤ c.toNat ∧ c.toNat ≤ n := by
  simpa using List.all_eq_true.mp hl c (List.elem_iff.mp h)

theorem ofNat_add_ne_colon {c : Char} (h : isUpper c) : Char.ofNat (c.toNat + 32) ≠ ':' := by
  simp only [isUpper, Bool.and_eq_true, decide_eq_true_eq] at h
  have h₁ : 65 ≤ c.toNat := h.1
  have h₂ : c.toNat ≤ 90 := h.2
  have hv : (c.toNat + 32).isValidChar := .inl (by omega)
  intro hc
  have hn := congrArg Char.toNat hc
  rw [Utf8.toNat_ofNat hv] at hn
  change c.toNat + 32 = 58 at hn
  omega

theorem lower_append (s t : List Char) : lower (s ++ t) = lower s ++ lower t := List.map_append

end Ascii

end ScrapeCourier
