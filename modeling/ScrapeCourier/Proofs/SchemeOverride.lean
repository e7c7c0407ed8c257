import ScrapeCourier.Proofs.BuiltUrl
import ScrapeCourier.Proofs.Preparable

namespace ScrapeCourier

theorem Octet.hexValue?_toUInt8 {c : Char} {d : Nat} (h : Ascii.hexValue? c = some d) :
    c.toNat < 0x80 ∧ hexValue? c.toNat.toUInt8 = some d := by
  have hlt : c.toNat < 0x80 := by
    simp only [Ascii.hexValue?, Ascii.isDigit, Bool.and_eq_true, decide_eq_true_eq,
      Char.le_def, UInt32.le_iff_toNat_le] at h
    split at h
    next hc => exact Nat.lt_of_le_of_lt hc.2 (by decide)
    · split at h
      next hc => exact Nat.lt_of_le_of_lt hc.2 (by decide)
      · split at h
        next hc => exact Nat.lt_of_le_of_lt hc.2 (by decide)
        · cases h
  have hall : ∀ n < 0x80, hexValue? n.toUInt8 = Ascii.hexValue? (Char.ofNat n) := by
    decide +kernel
  refine ⟨hlt, ?_⟩
  rw [hall _ hlt, Char.ofNat_toNat, h]

namespace Url.Form

/-- How the octets of a name or a value can be written: as characters, as escapes with digits of
either case, and spaces as plus signs too. -/
inductive Spells : List Char → Octets → Prop
  | nil : Spells [] []
  | char {c : Char} {s : List Char} {bs : Octets} (hc : c.toNat < 0x80) (hp : c ≠ '%')
      (ha : c ≠ '+') (hs : Spells s bs) : Spells (c :: s) (c.toNat.toUInt8 :: bs)
  | plus {s : List Char} {bs : Octets} (hs : Spells s bs) : Spells ('+' :: s) (Octet.space :: bs)
  | escape {h l : Char} {s : List Char} {hi lo : Nat} {bs : Octets}
      (hh : Ascii.hexValue? h = some hi) (hl : Ascii.hexValue? l = some lo) (hs : Spells s bs) :
      Spells ('%' :: h :: l :: s) ((hi * 16 + lo).toUInt8 :: bs)

theorem spaced_encode_cons {c : Char} (hc : c.toNat < 0x80) (ha : c ≠ '+') (s : List Char) :
    spaced (Utf8.encode (c :: s)) = c.toNat.toUInt8 :: spaced (Utf8.encode s) := by
  have hne : c.toNat.toUInt8 ≠ 43 := Utf8.toUInt8_ne_of_ne hc (by decide) ha
  rw [Utf8.encode_cons, Utf8.encodeChar_of_ascii hc, spaced, List.singleton_append, List.map_cons,
    if_neg hne]
  rfl

theorem decode_of_spells {s : List Char} {bs : Octets} (h : Spells s bs) :
    Percent.decode (spaced (Utf8.encode s)) = bs := by
  induction h with
  | nil => rfl
  | @char c s bs hc hp ha _ ih =>
    have hne : c.toNat.toUInt8 ≠ 37 := Utf8.toUInt8_ne_of_ne hc (by decide) hp
    rw [spaced_encode_cons hc ha, Percent.decode_cons hne, ih]
  | @plus s bs _ ih =>
    have hplus : spaced (Utf8.encode ('+' :: s)) = Octet.space :: spaced (Utf8.encode s) := rfl
    rw [hplus, Percent.decode_cons (by decide), ih]
  | @escape h l s hi lo bs hh hl _ ih =>
    obtain ⟨hc, hh⟩ := Octet.hexValue?_toUInt8 hh
    obtain ⟨lc, hl⟩ := Octet.hexValue?_toUInt8 hl
    have hplus {c : Char} {d : Nat} (hd : Octet.hexValue? c.toNat.toUInt8 = some d) : c ≠ '+' := by
      rintro rfl
      exact ne_plus_of_hexValue? hd rfl
    rw [spaced_encode_cons (by decide) (by decide), spaced_encode_cons hc (hplus hh),
      spaced_encode_cons lc (hplus hl)]
    exact (Percent.decode_escape hh hl _).trans (congrArg _ ih)

theorem decodeText_of_spells {s t : List Char} (h : Spells s (Utf8.encode t)) : decodeText s = t :=
  (congrArg Utf8.decodeLossy (decode_of_spells h)).trans (Utf8.decodeLossy_encode t)

theorem mem_of_spells {s : List Char} {bs : Octets} (h : Spells s bs) (hm : '=' ∈ s) :
    '='.toNat.toUInt8 ∈ bs := by
  induction h with
  | nil => cases hm
  | @char c s bs _ _ _ _ ih =>
    obtain rfl | hm := List.mem_cons.mp hm
    · exact List.mem_cons_self
    · exact List.mem_cons_of_mem _ (ih hm)
  | plus _ ih =>
    obtain he | hm := List.mem_cons.mp hm
    · cases he
    · exact List.mem_cons_of_mem _ (ih hm)
  | escape hh hl _ ih =>
    simp only [List.mem_cons] at hm
    obtain he | rfl | rfl | hm := hm
    · cases he
    · cases hh
    · cases hl
    · exact List.mem_cons_of_mem _ (ih hm)

theorem decodePair_of_spells {name value n v : List Char} (hn : Spells name (Utf8.encode n))
    (hv : Spells value (Utf8.encode v)) (he : '='.toNat.toUInt8 ∉ Utf8.encode n) :
    decodePair (name ++ '=' :: value) = (n, v) := by
  have hname : ∀ c ∈ name, (c ≠ '=' : Bool) := by
    intro c hc
    rw [decide_eq_true_eq]
    rintro rfl
    exact he (mem_of_spells hn hc)
  rw [decodePair, List.takeWhile_append_of_pos hname, List.dropWhile_append_of_pos hname,
    List.takeWhile_cons_of_neg (by simp), List.dropWhile_cons_of_neg (by simp), List.append_nil,
    List.drop_one, List.tail_cons, decodeText_of_spells hn, decodeText_of_spells hv]

end Url.Form

namespace Preparation

variable {u v : Url}

theorem asksForHttps_iff (u : Url) :
    asksForHttps u = true ↔ u.queryPairs.lookup schemeName = some "https".toList := by
  rw [asksForHttps]
  generalize u.queryPairs = ps
  induction ps with
  | nil => exact ⟨nofun, nofun⟩
  | cons p ps ih =>
    obtain ⟨name, value⟩ := p
    by_cases hn : name = schemeName
    · subst hn
      simp
    · rw [List.find?_cons_of_neg (by simpa using hn), ih, List.lookup_cons,
        beq_eq_false_iff_ne.mpr (Ne.symm hn)]

structure IsUpgraded (u v : Url) : Prop where
  scheme : v.scheme = "https".toList
  pairs : v.queryPairs = u.queryPairs.filter (·.1 ≠ schemeName)
  query : v.queryPairs = [] → v.query = none
  userinfo : v.username = u.username ∧ v.password = u.password
  host : v.host = u.host
  port : v.port = if u.port = some 443 then none else u.port
  path : v.path = u.path
  fragment : v.fragment = u.fragment

theorem query_withoutSchemePairs (h : (withoutSchemePairs u).queryPairs = []) :
    (withoutSchemePairs u).query = none := by
  rw [queryPairs_withoutSchemePairs] at h
  rw [withoutSchemePairs, h]
  rfl

theorem isUpgraded_of_overrideScheme (hu : u.IsSound) (ha : asksForHttps u)
    (h : overrideScheme u = .ok v) : IsUpgraded u v := by
  have hparts := parts_of_overrideScheme hu.path h
  rw [if_pos ha] at hparts
  rw [overrideScheme, if_pos ha] at h
  have hv := (toHttps_eq_ok.mp h).2
  obtain ⟨query, path, hw, -⟩ := withoutSchemePairs_eq u
  have hquery : v.query = (withoutSchemePairs u).query := by rw [hv, secured]
  have hport : v.port = if u.port = some 443 then none else u.port := by rw [hv, secured, hw]
  have hpairs : v.queryPairs = (withoutSchemePairs u).queryPairs := by
    rw [Url.queryPairs, hquery, Url.queryPairs]
  refine ⟨by rw [hparts], ?_, fun hn => ?_, by rw [hparts]; exact ⟨rfl, rfl⟩, by rw [hparts], hport,
    by rw [hparts], by rw [hparts]⟩
  · rw [hpairs, queryPairs_withoutSchemePairs]
  · rw [hquery]
    exact query_withoutSchemePairs (hpairs ▸ hn)

theorem IsUpgraded.not_asksForHttps (h : IsUpgraded u v) : asksForHttps v = false := by
  have hnone : v.queryPairs.find? (·.1 = schemeName) = none := by
    rw [h.pairs, List.find?_eq_none]
    intro p hp
    simpa using (List.mem_filter.mp hp).2
  rw [asksForHttps, hnone]
  rfl

/-- Whatever URL there is, its scheme is left alone unless the first query pair that names a scheme
names https, in whatever spelling, and then every web scheme is overridden. -/
theorem overrideScheme_built (hu : u.Built) :
    (u.queryPairs.lookup schemeName = some "https".toList →
      u.scheme ∈ ["http", "https", "ws", "wss", "ftp"].map String.toList →
        ∃ v, overrideScheme u = .ok v ∧ IsUpgraded u v) ∧
    (u.queryPairs.lookup schemeName ≠ some "https".toList → overrideScheme u = .ok u) ∧
    (∀ v, overrideScheme u = .ok v → overrideScheme v = .ok v) ∧
    ∀ name value, Url.Form.Spells name (Utf8.encode schemeName) →
      Url.Form.Spells value (Utf8.encode "https".toList) →
        Url.Form.decodePair (name ++ '=' :: value) = (schemeName, "https".toList) := by
  have hsound := hu.isSound
  refine ⟨fun hpair hscheme => ?_, fun hpair => ?_, fun v hv => ?_, fun name value hn hv => ?_⟩
  · have ha := (asksForHttps_iff u).mpr hpair
    have hkind : u.kind = .web := by
      rw [Url.kind]
      simp only [List.map_cons, List.map_nil, List.mem_cons, List.not_mem_nil, or_false] at hscheme
      obtain hs | hs | hs | hs | hs := hscheme <;> rw [hs] <;> decide
    have hspecial : u.kind.isSpecial := by rw [hkind]; rfl
    obtain ⟨v, hv⟩ := (exists_overrideScheme (u := u)).mpr fun _ => ⟨hspecial, hsound.host hkind⟩
    exact ⟨v, hv, isUpgraded_of_overrideScheme hsound ha hv⟩
  · rw [overrideScheme, if_neg (mt (asksForHttps_iff u).mp hpair)]
  -- Once the pairs are gone the query asks for nothing; without them nothing was changed.
  · cases ha : asksForHttps u with
    | true =>
      have hnone := (isUpgraded_of_overrideScheme hsound ha hv).not_asksForHttps
      rw [overrideScheme, if_neg (by rw [hnone]; exact Bool.false_ne_true)]
    | false =>
      have hsame := hv
      rw [overrideScheme, if_neg (by rw [ha]; exact Bool.false_ne_true)] at hsame
      cases hsame
      exact hv
  · exact Url.Form.decodePair_of_spells hn hv (by decide)

namespace OverrideExample

/-- A URL on the default port of the scheme that its query asks for in escapes. -/
def url : Url where
  scheme := "ws".toList
  username := "u".toList
  host := some (.domain "node1".toList)
  port := some 443
  path := .segments ["p".toList]
  query := some "x&%5fscheme=http%73&a+b=%26%ff&_scheme=ws".toList
  fragment := some "f".toList

end OverrideExample

open OverrideExample in
theorem overrideScheme_built_spelled :
    Url.parse "ws://u@node1:443/p?x&%5fscheme=http%73&a+b=%26%ff&_scheme=ws#f".toList = .ok url ∧
    url.queryPairs.lookup schemeName = some "https".toList ∧
    ∃ v, overrideScheme url = .ok v ∧ v.scheme = "https".toList ∧ v.username = "u".toList ∧
      v.port = none ∧ v.queryPairs =
        [("x".toList, []), ("a b".toList, ['&', Char.ofNat 0xFFFD])] ∧ overrideScheme v = .ok v := by
  have hparse : Url.parse
      "ws://u@node1:443/p?x&%5fscheme=http%73&a+b=%26%ff&_scheme=ws#f".toList = .ok url :=
    eq_ok_of_toOption (by decide +kernel)
  have hpair : url.queryPairs.lookup schemeName = some "https".toList := by decide +kernel
  have hall := overrideScheme_built (.parse hparse)
  obtain ⟨v, hv, hup⟩ := hall.1 hpair (by decide)
  refine ⟨hparse, hpair, v, hv, hup.scheme, hup.userinfo.1, hup.port, ?_, hall.2.2.1 v hv⟩
  rw [hup.pairs]
  decide +kernel

end Preparation

end ScrapeCourier
