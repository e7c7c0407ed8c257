import ScrapeCourier.Proofs.Escapes
import ScrapeCourier.Proofs.Octet
import ScrapeCourier.Url.Form

namespace ScrapeCourier

@[simp] theorem Utf8.decodeLossy_encode (s : List Char) : decodeLossy (encode s) = s := by
  rw [decodeLossy, scan_encode, List.map_map]
  exact List.map_id s

namespace Url

namespace Form

def spaced (s : Octets) : Octets := s.map fun b => if b = 43 then Octet.space else b

theorem ascii_of_isPlain {b : UInt8} (h : isPlain b) : b.toNat < 0x80 := by
  simp only [isPlain, Octet.isAlpha, Bool.or_eq_true, Octet.isUpper_iff, Octet.isLower_iff,
    Octet.isDigit_iff] at h
  obtain ((h | h) | h) | h := h
  · omega
  · omega
  · omega
  · have hall : (Octets.ofAscii "*-._").all (·.toNat < 0x80) := by decide
    exact of_decide_eq_true (List.all_eq_true.mp hall b (List.elem_iff.mp h))

theorem ne_of_isPlain {b c : UInt8} (h : isPlain b) (hc : isPlain c = false) : b ≠ c := by
  rintro rfl
  rw [hc] at h
  cases h

theorem toNat_ofNat_of_isPlain {b : UInt8} (h : isPlain b) :
    (Char.ofNat b.toNat).toNat = b.toNat :=
  Utf8.toNat_ofNat (.inl (Nat.lt_trans (ascii_of_isPlain h) (by decide)))

theorem ofNat_ne_of_isPlain {b : UInt8} {c : Char} (h : isPlain b)
    (hc : isPlain c.toNat.toUInt8 = false) : Char.ofNat b.toNat ≠ c := by
  rintro rfl
  rw [toNat_ofNat_of_isPlain h] at hc
  exact ne_of_isPlain h hc UInt8.ofNat_toNat.symm

theorem encode_of_isPlain {b : UInt8} (h : isPlain b) : Utf8.encode [Char.ofNat b.toNat] = [b] := by
  have hn := toNat_ofNat_of_isPlain h
  rw [Utf8.encode_of_ascii, List.map_singleton, hn]
  · exact congrArg ([·]) UInt8.ofNat_toNat
  · intro c hc
    rw [List.mem_singleton.mp hc, hn]
    exact ascii_of_isPlain h

theorem ne_plus_of_hexValue? {b : UInt8} {d : Nat} (h : Octet.hexValue? b = some d) : b ≠ 43 := by
  rintro rfl
  cases h

theorem decode_encodeOctet (b : UInt8) (s : Octets) :
    Percent.decode (spaced (Utf8.encode (encodeOctet b)) ++ s) = b :: Percent.decode s := by
  rw [encodeOctet]
  split
  next hb =>
    rw [encode_of_isPlain hb, spaced, List.map_singleton, if_neg (ne_of_isPlain hb (by decide))]
    exact Percent.decode_cons (ne_of_isPlain hb (by decide)) s
  split
  next hb =>
    subst hb
    exact Percent.decode_cons (by decide) s
  · have hb := b.toNat_lt
    have hhi := Percent.hexValue?_upperHexDigit (d := b.toNat / 16) (by omega)
    have hlo := Percent.hexValue?_upperHexDigit (d := b.toNat % 16) (by omega)
    rw [Percent.encode_encodeOctet, spaced, List.map_cons, List.map_cons, List.map_singleton,
      if_neg (by decide), if_neg (ne_plus_of_hexValue? hhi), if_neg (ne_plus_of_hexValue? hlo)]
    refine (Percent.decode_escape hhi hlo s).trans (congrArg (· :: _) ?_)
    rw [Nat.div_add_mod']
    exact UInt8.ofNat_toNat

theorem decode_encodeOctets (bs : Octets) :
    Percent.decode (spaced (Utf8.encode (bs.flatMap encodeOctet))) = bs := by
  induction bs with
  | nil => rfl
  | cons b bs ih =>
    rw [List.flatMap_cons, Utf8.encode_append, spaced, List.map_append]
    exact (decode_encodeOctet b _).trans (congrArg (b :: ·) ih)

theorem decodeText_encodeText (s : List Char) : decodeText (encodeText s) = s :=
  (congrArg Utf8.decodeLossy (decode_encodeOctets _)).trans (Utf8.decodeLossy_encode s)

theorem not_mem_encodeOctet {b : UInt8} {c : Char} (h : c ∈ encodeOctet b) : c ≠ '&' ∧ c ≠ '=' := by
  rw [encodeOctet] at h
  split at h
  next hb =>
    rw [List.mem_singleton.mp h]
    exact ⟨ofNat_ne_of_isPlain hb (by decide), ofNat_ne_of_isPlain hb (by decide)⟩
  split at h
  · rw [List.mem_singleton.mp h]
    decide
  · have hb := b.toNat_lt
    simp only [Percent.encodeOctet, List.mem_cons, List.not_mem_nil, or_false] at h
    obtain rfl | rfl | rfl := h
    · decide
    · exact Percent.upperHexDigit_ne (by omega)
    · exact Percent.upperHexDigit_ne (by omega)

theorem not_mem_encodeText (s : List Char) : '&' ∉ encodeText s ∧ '=' ∉ encodeText s := by
  constructor
  · intro h
    obtain ⟨b, -, hb⟩ := List.mem_flatMap.mp h
    exact (not_mem_encodeOctet hb).1 rfl
  · intro h
    obtain ⟨b, -, hb⟩ := List.mem_flatMap.mp h
    exact (not_mem_encodeOctet hb).2 rfl

theorem encodePair_ne_nil (p : Pair) : encodePair p ≠ [] :=
  List.append_ne_nil_of_right_ne_nil _ (List.cons_ne_nil _ _)

theorem not_mem_encodePair (p : Pair) : '&' ∉ encodePair p := by
  simp [encodePair, not_mem_encodeText]

theorem decodePair_encodePair (p : Pair) : decodePair (encodePair p) = p := by
  have hname : ∀ c ∈ encodeText p.1, (c ≠ '=' : Bool) := by
    intro c hc
    rw [decide_eq_true_eq]
    rintro rfl
    exact (not_mem_encodeText p.1).2 hc
  rw [decodePair, encodePair, List.takeWhile_append_of_pos hname,
    List.dropWhile_append_of_pos hname, List.takeWhile_cons_of_neg (by simp),
    List.dropWhile_cons_of_neg (by simp), List.append_nil, List.drop_one, List.tail_cons,
    decodeText_encodeText, decodeText_encodeText]

theorem decode_encode (ps : List Pair) : decode (encode ps) = ps := by
  by_cases hps : ps = []
  · subst hps
    rfl
  have hsplit : (encode ps).splitOn '&' = ps.map encodePair := by
    apply List.splitOn_intercalate
    · intro s hs
      obtain ⟨p, -, rfl⟩ := List.mem_map.mp hs
      exact not_mem_encodePair p
    · rwa [ne_eq, List.map_eq_nil_iff]
  have hfilter : (ps.map encodePair).filter (!·.isEmpty) = ps.map encodePair := by
    apply List.filter_eq_self.mpr
    intro s hs
    obtain ⟨p, -, rfl⟩ := List.mem_map.mp hs
    simpa using encodePair_ne_nil p
  rw [decode, hsplit, hfilter, List.map_map]
  exact (List.map_congr_left fun p _ => decodePair_encodePair p).trans (List.map_id ps)

end Form

end Url

end ScrapeCourier
