import ScrapeCourier.Proofs.Cut
import ScrapeCourier.Proofs.Utf8
import ScrapeCourier.Url.Percent

namespace ScrapeCourier.Url

namespace Percent

theorem hexValue?_upperHexDigit {d : Nat} (h : d < 16) :
    Octet.hexValue? (upperHexDigit d).toNat.toUInt8 = some d := by
  revert d
  decide

theorem ascii_upperHexDigit {d : Nat} (h : d < 16) : (upperHexDigit d).toNat < 0x80 := by
  revert d
  decide

theorem upperHexDigit_ne {d : Nat} (h : d < 16) :
    upperHexDigit d ≠ '&' ∧ upperHexDigit d ≠ '=' := by
  revert d
  decide

theorem encode_encodeOctet (b : UInt8) : Utf8.encode (encodeOctet b) =
    [37, (upperHexDigit (b.toNat / 16)).toNat.toUInt8,
      (upperHexDigit (b.toNat % 16)).toNat.toUInt8] := by
  have hb := b.toNat_lt
  apply Utf8.encode_of_ascii
  intro c hc
  simp only [encodeOctet, List.mem_cons, List.not_mem_nil, or_false] at hc
  obtain rfl | rfl | rfl := hc
  · decide
  · exact ascii_upperHexDigit (by omega)
  · exact ascii_upperHexDigit (by omega)

theorem decode_cons {b : UInt8} (hb : b ≠ 37) (s : Octets) : decode (b :: s) = b :: decode s := by
  match s with
  | [] => rfl
  | [c] => rfl
  | h :: l :: s => simp [decode, hb]

theorem decode_escape {h l : UInt8} {hi lo : Nat} (hh : Octet.hexValue? h = some hi)
    (hl : Octet.hexValue? l = some lo) (s : Octets) :
    decode (37 :: h :: l :: s) = (hi * 16 + lo).toUInt8 :: decode s := by
  simp [decode, hh, hl]

theorem decode_of_not_mem {s : Octets} (h : 37 ∉ s) : decode s = s := by
  induction s with
  | nil => rfl
  | cons b s ih =>
    rw [List.mem_cons, not_or] at h
    rw [decode_cons (Ne.symm h.1), ih h.2]

theorem decode_encode_of_ascii {s : List Char} (hs : ∀ c ∈ s, c.toNat < 0x80) (h : '%' ∉ s) :
    decode (Utf8.encode s) = Utf8.encode s := by
  apply decode_of_not_mem
  rw [Utf8.encode_of_ascii hs]
  intro hm
  obtain ⟨c, hc, he⟩ := List.mem_map.mp hm
  have hne : c ≠ '%' := by
    rintro rfl
    exact h hc
  exact Utf8.toUInt8_ne_of_ne (hs c hc) (by decide) hne he

def marks : List Char := "%0123456789ABCDEF".toList

theorem mem_marks_of_mem_encodeOctet {b : UInt8} {c : Char} (h : c ∈ encodeOctet b) : c ∈ marks := by
  have key : ∀ d : Fin 16, upperHexDigit d ∈ marks := by decide
  have hb := b.toNat_lt
  simp only [encodeOctet, List.mem_cons, List.not_mem_nil, or_false] at h
  obtain rfl | rfl | rfl := h
  · decide
  · exact key ⟨b.toNat / 16, by omega⟩
  · exact key ⟨b.toNat % 16, by omega⟩

variable {escaped : Char → Bool} {s : List Char} {c : Char}

theorem mem_encode (h : c ∈ encode escaped s) :
    (c ∈ s ∧ c.toNat < 0x7F ∧ escaped c = false) ∨ c ∈ marks := by
  obtain ⟨d, hd, hc⟩ := List.mem_flatMap.mp h
  rw [encodeChar] at hc
  split at hc
  · obtain ⟨b, -, hb⟩ := List.mem_flatMap.mp hc
    exact .inr (mem_marks_of_mem_encodeOctet hb)
  next hn =>
    obtain rfl := List.mem_singleton.mp hc
    simp only [Bool.or_eq_true, decide_eq_true_eq, not_or, Nat.not_le, Bool.not_eq_true] at hn
    exact .inl ⟨hd, hn⟩

/-- What holds of the marks and of all that is not escaped holds of the whole. -/
theorem forall_mem_encode {p : Char → Prop} (hm : ∀ c ∈ marks, p c)
    (hs : ∀ c ∈ s, c.toNat < 0x7F → escaped c = false → p c) : ∀ c ∈ encode escaped s, p c := by
  intro c hc
  obtain ⟨hc, hlt, he⟩ | hc := mem_encode hc
  · exact hs c hc hlt he
  · exact hm c hc

theorem encode_of_forall (h : ∀ c ∈ s, c.toNat < 0x7F ∧ escaped c = false) :
    encode escaped s = s := by
  induction s with
  | nil => rfl
  | cons c s ih =>
    rw [List.forall_mem_cons] at h
    have hc : ¬(0x7F ≤ c.toNat || escaped c) := by
      rw [h.1.2, Bool.or_false, decide_eq_true_eq]
      omega
    rw [encode, List.flatMap_cons, encodeChar, if_neg hc]
    exact congrArg (c :: ·) (ih h.2)

theorem encode_encode (h : ∀ c ∈ marks, escaped c = false) :
    encode escaped (encode escaped s) = encode escaped s := by
  apply encode_of_forall
  apply forall_mem_encode
  · intro c hc
    have hlt : ∀ c ∈ marks, c.toNat < 0x7F := by decide
    exact ⟨hlt c hc, h c hc⟩
  · exact fun c _ hlt he => ⟨hlt, he⟩

theorem encodeChar_ne_nil (c : Char) : encodeChar escaped c ≠ [] := by
  rw [encodeChar]
  split
  · obtain ⟨b, bs, hb⟩ := List.exists_cons_of_ne_nil (Utf8.encodeChar_ne_nil c)
    rw [hb]
    exact List.cons_ne_nil _ _
  · exact List.cons_ne_nil _ _

theorem encode_ne_nil (h : s ≠ []) : encode escaped s ≠ [] := by
  obtain ⟨c, s, rfl⟩ := List.exists_cons_of_ne_nil h
  rw [encode, List.flatMap_cons]
  exact List.append_ne_nil_of_left_ne_nil (encodeChar_ne_nil c) _

theorem mem_marks_or_eq {d : Char} (h : d ∈ encodeChar escaped c) : d ∈ marks ∨ d = c := by
  rw [encodeChar] at h
  split at h
  · obtain ⟨b, -, hb⟩ := List.mem_flatMap.mp h
    exact .inl (mem_marks_of_mem_encodeOctet hb)
  · exact .inr (List.mem_singleton.mp h)

/-- What holds of the marks and of the first character holds of the first one that is written. -/
theorem head?_encode {p : Char → Prop} (hm : ∀ c ∈ marks, p c) (hs : ∀ c, s.head? = some c → p c) :
    ∀ c, (encode escaped s).head? = some c → p c := by
  cases s with
  | nil => exact nofun
  | cons d s =>
    intro c hc
    rw [encode, List.flatMap_cons, List.head?_append,
      List.head?_eq_some_head (encodeChar_ne_nil d), Option.some_or] at hc
    obtain hmark | rfl := mem_marks_or_eq (Option.some.inj hc ▸ List.head_mem _)
    · exact hm c hmark
    · exact hs c rfl

theorem getLast?_encode {p : Char → Prop} (hm : ∀ c ∈ marks, p c)
    (hs : ∀ c, s.getLast? = some c → p c) :
    ∀ c, (encode escaped s).getLast? = some c → p c := by
  obtain rfl | ⟨t, d, ht⟩ := List.eq_nil_or_concat s
  · exact nofun
  · rw [List.concat_eq_append] at ht
    subst ht
    intro c hc
    rw [encode, List.flatMap_append, List.flatMap_singleton, List.getLast?_append,
      List.getLast?_eq_some_getLast (encodeChar_ne_nil d), Option.some_or] at hc
    obtain hmark | rfl := mem_marks_or_eq (Option.some.inj hc ▸ List.getLast_mem _)
    · exact hm c hmark
    · exact hs c List.getLast?_concat

theorem lt_of_not_isControl (h : isControl c = false) (hs : c ≠ ' ') : 0x20 < c.toNat := by
  have hne : c.toNat ≠ 0x20 := fun he => hs (Char.toNat_inj.mp he)
  simp only [isControl, decide_eq_false_iff_not] at h
  omega

theorem lt_of_not_inFragment (h : inFragment c = false) : 0x20 < c.toNat := by
  rw [inFragment, Bool.or_eq_false_iff] at h
  refine lt_of_not_isControl h.1 ?_
  rintro rfl
  cases h.2

theorem lt_of_not_inPath (h : inPath c = false) : 0x20 < c.toNat := by
  rw [inPath, Bool.or_eq_false_iff] at h
  exact lt_of_not_inFragment h.1

theorem lt_of_not_inUserinfo (h : inUserinfo c = false) : 0x20 < c.toNat := by
  rw [inUserinfo, Bool.or_eq_false_iff] at h
  exact lt_of_not_inPath h.1

theorem lt_of_not_inQuery (h : inQuery c = false) : 0x20 < c.toNat := by
  rw [inQuery, Bool.or_eq_false_iff] at h
  refine lt_of_not_isControl h.1 ?_
  rintro rfl
  cases h.2

theorem range_of_mem_encode (h : ∀ c, escaped c = false → 0x20 < c.toNat) :
    ∀ c ∈ encode escaped s, 0x20 < c.toNat ∧ c.toNat < 0x7F := by
  apply forall_mem_encode
  · decide
  · exact fun c _ hlt he => ⟨h c he, hlt⟩

end Percent

end ScrapeCourier.Url
