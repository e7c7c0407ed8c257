import ScrapeCourier.Proofs.Checked
import ScrapeCourier.Proofs.Cut
import ScrapeCourier.Proofs.Digits
import ScrapeCourier.Url.Ipv6
import Mathlib.Data.List.TakeWhile
import Mathlib.Data.Nat.Digits.Defs

namespace ScrapeCourier.Url

namespace Ipv4

theorem valueIn_concat {base n d : Nat} {s : List Char} {c : Char} (hs : valueIn base s = some n)
    (hc : Ascii.hexValue? c = some d) (hd : d < base) :
    valueIn base (s ++ [c]) = some (n * base + d) := by
  rw [valueIn, List.foldlM_append]
  rw [valueIn] at hs
  rw [hs, Option.bind_eq_bind, Option.bind_some, List.foldlM_cons, hc]
  dsimp only
  rw [if_pos hd]
  rfl

theorem hexValue?_digitChar {d : Nat} (h : d < 10) :
    Ascii.hexValue? (Unsigned.digitChar d) = some d := by
  rw [Ascii.hexValue?, if_pos (Unsigned.isDigit_digitChar h), Unsigned.toNat_digitChar h]
  congr
  omega

theorem valueIn_text (n : Nat) : valueIn 10 (Unsigned.text n) = some n := by
  induction n using Unsigned.text.induct with
  | case1 n h =>
    rw [Unsigned.text, if_pos h]
    have hc := valueIn_concat (s := []) rfl (hexValue?_digitChar h) h
    rwa [Nat.zero_mul, Nat.zero_add] at hc
  | case2 n h ih =>
    have hd : n % 10 < 10 := Nat.mod_lt n (by decide)
    rw [Unsigned.text, if_neg h, valueIn_concat ih (hexValue?_digitChar hd) hd]
    congr
    omega

theorem eq_zero_of_head? {n : Nat} (h : (Unsigned.text n).head? = some '0') : n = 0 := by
  induction n using Unsigned.text.induct with
  | case1 n hn =>
    rw [Unsigned.text, if_pos hn] at h
    have hv := Unsigned.digitValue_digitChar hn
    rw [Option.some.inj h] at hv
    exact hv.symm
  | case2 n hn ih =>
    rw [Unsigned.text, if_neg hn, List.head?_append_of_ne_nil _ (Unsigned.text_ne_nil _)] at h
    have := ih h
    omega

theorem part?_text (n : Nat) : part? (Unsigned.text n) = some n := by
  by_cases hn : n = 0
  · subst hn
    rw [show Unsigned.text 0 = ['0'] by rw [Unsigned.text]; rfl]
    rfl
  have hhead : ∀ s, Unsigned.text n ≠ '0' :: s := by
    intro s hs
    exact hn (eq_zero_of_head? (by rw [hs]; rfl))
  rw [part?.eq_5, valueIn_text]
  · exact Unsigned.text_ne_nil n
  · exact fun _ => hhead _
  · exact fun _ => hhead _
  · exact fun _ _ => hhead _

def octets (x : Ipv4) : List Nat := [x.a.toNat, x.b.toNat, x.c.toNat, x.d.toNat]

theorem text_eq (x : Ipv4) : x.text = ['.'].intercalate (x.octets.map Unsigned.text) := by
  simp [text, octets, List.intercalate_cons_cons, List.intercalate_singleton]

theorem not_mem_text (n : Nat) : '.' ∉ Unsigned.text n := by
  intro h
  cases List.all_eq_true.mp (Unsigned.all_isDigit_text n) '.' h

theorem parts_text (x : Ipv4) : parts x.text = x.octets.map Unsigned.text := by
  have hsplit : x.text.splitOn '.' = x.octets.map Unsigned.text := by
    rw [text_eq]
    refine List.splitOn_intercalate _ ?_ (by simp [octets])
    intro s hs
    obtain ⟨n, -, rfl⟩ := List.mem_map.mp hs
    exact not_mem_text n
  rw [parts, hsplit]
  exact if_neg fun h => Unsigned.text_ne_nil _ (Option.some.inj h)

theorem endsInNumber_text (x : Ipv4) : endsInNumber x.text = true := by
  rw [endsInNumber, parts_text]
  change (_ || (part? (Unsigned.text x.d.toNat)).isSome) = true
  rw [part?_text, Option.isSome_some, Bool.or_true]

theorem ofNat_octets (x : Ipv4) :
    ofNat ((((0 * 256 + x.a.toNat) * 256 + x.b.toNat) * 256 + x.c.toNat) * 256 + x.d.toNat) = x := by
  obtain ⟨a, b, c, d⟩ := x
  have ha := a.toNat_lt
  have hb := b.toNat_lt
  have hc := c.toNat_lt
  have hd := d.toNat_lt
  simp only [ofNat, Ipv4.mk.injEq]
  refine ⟨?_, ?_, ?_, ?_⟩
  all_goals
    apply UInt8.toNat_inj.mp
    rw [UInt8.toNat_ofNat']
    omega

theorem ofParts?_octets (x : Ipv4) : ofParts? x.octets = some x := by
  have ha := x.a.toNat_lt
  have hb := x.b.toNat_lt
  have hc := x.c.toNat_lt
  have hd := x.d.toNat_lt
  have hroom : ¬(3 < [x.c.toNat, x.b.toNat, x.a.toNat].length ||
      [x.c.toNat, x.b.toNat, x.a.toNat].any (255 < ·) ||
      Nat.pow 256 (4 - [x.c.toNat, x.b.toNat, x.a.toNat].length) ≤ x.d.toNat) := by
    simp
    omega
  change (if _ then none else some _) = some x
  rw [if_neg hroom]
  exact congrArg some (ofNat_octets x)

theorem read?_text (x : Ipv4) : read? x.text = some x := by
  have hparts : (x.octets.map Unsigned.text).mapM part? = some x.octets :=
    mapM_map_eq_some fun n _ => part?_text n
  rw [read?, parts_text, hparts]
  exact ofParts?_octets x

theorem isDigit_of_mem_text {x : Ipv4} {c : Char} (h : c ∈ x.text) :
    c = '.' ∨ Ascii.isDigit c := by
  rw [text_eq] at h
  refine (Cut.mem_intercalate h).imp_right fun ⟨s, hs, hc⟩ => ?_
  obtain ⟨n, -, rfl⟩ := List.mem_map.mp hs
  exact List.all_eq_true.mp (Unsigned.all_isDigit_text n) c hc

end Ipv4

namespace Ipv6

def isDigit (c : Char) : Bool := Ascii.isDigit c || ('a' ≤ c && c ≤ 'f')

theorem hexValue?_digitChar {d : Nat} (h : d < 16) :
    Ascii.hexValue? (Nat.digitChar d) = some d ∧ isDigit (Nat.digitChar d) := by
  have key : ∀ d : Fin 16, Ascii.hexValue? (Nat.digitChar d) = some d.val ∧
      isDigit (Nat.digitChar d) := by decide
  exact key ⟨d, h⟩

theorem valueIn_hexText (n : Nat) :
    Ipv4.valueIn 16 (hexText n) = some n ∧ (hexText n).all isDigit := by
  induction n using Nat.strongRecOn with
  | ind n ih =>
    rw [hexText]
    by_cases h : n < 16
    · obtain ⟨hv, hd⟩ := hexValue?_digitChar h
      rw [Nat.toDigits_of_lt_base h]
      have hc := Ipv4.valueIn_concat (s := []) rfl hv h
      rw [Nat.zero_mul, Nat.zero_add] at hc
      exact ⟨hc, by simpa using hd⟩
    · have hm : n % 16 < 16 := Nat.mod_lt n (by decide)
      obtain ⟨hv, hd⟩ := hexValue?_digitChar hm
      obtain ⟨ihv, ihd⟩ := ih (n / 16) (by omega)
      rw [Nat.toDigits_of_base_le (by decide) (by omega)]
      constructor
      · rw [← hexText, Ipv4.valueIn_concat ihv hv hm]
        congr
        omega
      · rw [← hexText, List.all_append, ihd]
        simpa using hd

theorem hexText_ne_nil (n : Nat) : hexText n ≠ [] := Nat.toDigits_ne_nil

theorem hexPiece?_hexText (p : UInt16) : hexPiece? (hexText p.toNat) = some p := by
  have hle : (hexText p.toNat).length ≤ 4 :=
    (Nat.length_toDigits_le_iff (by decide) (by decide)).mpr p.toNat_lt
  have hpos : 1 ≤ (hexText p.toNat).length := List.length_pos_of_ne_nil (hexText_ne_nil _)
  rw [hexPiece?, decide_eq_true hle, decide_eq_true hpos, (valueIn_hexText _).1]
  simp

theorem isDigit_of_mem_joinColons {ps : List UInt16} {c : Char} (h : c ∈ joinColons ps) :
    c = ':' ∨ isDigit c := by
  refine (Cut.mem_intercalate h).imp_right fun ⟨s, hs, hc⟩ => ?_
  obtain ⟨p, -, rfl⟩ := List.mem_map.mp hs
  exact List.all_eq_true.mp (valueIn_hexText _).2 c hc

theorem not_mem_hexText (n : Nat) : ':' ∉ hexText n := by
  intro h
  cases List.all_eq_true.mp (valueIn_hexText n).2 ':' h

theorem pieces?_map (dotted : Bool) (ps : List UInt16) :
    pieces? dotted (ps.map (hexText ·.toNat)) = some ps := by
  induction ps with
  | nil => rfl
  | cons p ps ih =>
    cases ps with
    | nil =>
      rw [List.map_singleton, pieces?, hexPiece?_hexText]
    | cons q ps =>
      rw [List.map_cons] at ih
      rw [List.map_cons, List.map_cons, pieces?, hexPiece?_hexText, ih]

theorem splitOn_joinColons {ps : List UInt16} (h : ps ≠ []) :
    (joinColons ps).splitOn ':' = ps.map (hexText ·.toNat) := by
  apply List.splitOn_intercalate
  · intro s hs
    obtain ⟨p, -, rfl⟩ := List.mem_map.mp hs
    exact not_mem_hexText _
  · rwa [ne_eq, List.map_eq_nil_iff]

theorem joinColons_cons_cons (p q : UInt16) (ps : List UInt16) :
    joinColons (p :: q :: ps) = hexText p.toNat ++ ':' :: joinColons (q :: ps) := by
  simp [joinColons, List.intercalate_cons_cons]

theorem exists_joinColons_cons (p : UInt16) (ps : List UInt16) :
    ∃ c s, joinColons (p :: ps) = c :: s ∧ c ≠ ':' := by
  obtain ⟨c, s, hs⟩ := List.exists_cons_of_ne_nil (hexText_ne_nil p.toNat)
  have hc : c ≠ ':' := by
    rintro rfl
    exact not_mem_hexText p.toNat (hs ▸ List.mem_cons_self)
  cases ps with
  | nil => exact ⟨c, s, by rw [joinColons, List.map_singleton, List.intercalate_singleton, hs], hc⟩
  | cons q ps => exact ⟨c, _, by rw [joinColons_cons_cons, hs, List.cons_append], hc⟩

theorem run?_joinColons (dotted : Bool) (ps : List UInt16) :
    run? dotted (joinColons ps) = some ps := by
  cases ps with
  | nil => rfl
  | cons p ps =>
    obtain ⟨c, s, hs, -⟩ := exists_joinColons_cons p ps
    have hne : ¬(joinColons (p :: ps)).isEmpty := by simp [hs]
    rw [run?, if_neg hne, splitOn_joinColons (List.cons_ne_nil _ _), pieces?_map]

theorem splitDouble_cons {c : Char} {s : List Char} (h : ∀ t, c :: s ≠ ':' :: ':' :: t) :
    splitDouble (c :: s) = (splitDouble s).map fun (l, r) => (c :: l, r) := by
  rw [splitDouble.eq_2]
  exact fun t hc hs => h t (by rw [hc, hs])

theorem splitDouble_append {s : List Char} (h : ':' ∉ s) (t : List Char) :
    splitDouble (s ++ t) = (splitDouble t).map fun (l, r) => (s ++ l, r) := by
  induction s with
  | nil => simp
  | cons c s ih =>
    rw [List.mem_cons, not_or] at h
    rw [List.cons_append, splitDouble_cons, ih h.2, Option.map_map]
    · rfl
    · intro u hu
      exact h.1 (List.cons.inj hu).1.symm

theorem splitDouble_joinColons (ps : List UInt16) (t : List Char) :
    splitDouble (joinColons ps ++ t) = (splitDouble t).map fun (l, r) => (joinColons ps ++ l, r) := by
  induction ps with
  | nil => simp [joinColons]
  | cons p ps ih =>
    cases ps with
    | nil =>
      rw [joinColons, List.map_singleton, List.intercalate_singleton]
      exact splitDouble_append (not_mem_hexText _) t
    | cons q ps =>
      -- behind the colon comes a digit
      obtain ⟨c, s, hs, hc⟩ := exists_joinColons_cons q ps
      rw [joinColons_cons_cons, List.append_assoc, splitDouble_append (not_mem_hexText _),
        List.cons_append, splitDouble_cons, ih, Option.map_map, Option.map_map]
      · simp only [List.append_assoc, List.cons_append]
        rfl
      · intro u hu
        rw [hs] at hu
        exact hc (List.cons.inj (List.cons.inj hu).2).1

theorem exists_longestZeros (i : Nat) (ps : List UInt16) :
    ∃ l r, ps = l ++ List.replicate (longestZeros i ps).2 0 ++ r ∧
      (0 < (longestZeros i ps).2 → (longestZeros i ps).1 = i + l.length) := by
  -- The later run wins only if it is longer, so that the first one is kept otherwise.
  induction ps generalizing i with
  | nil => exact ⟨[], [], rfl, nofun⟩
  | cons p ps ih =>
    simp only [longestZeros]
    split
    · refine ⟨[], (p :: ps).dropWhile (· = 0), ?_, fun _ => rfl⟩
      have hrun : List.replicate (zeroRun (p :: ps)) 0 = (p :: ps).takeWhile (· = 0) := by
        rw [zeroRun, eq_comm, List.eq_replicate_iff]
        refine ⟨rfl, fun x hx => ?_⟩
        simpa using List.mem_takeWhile_imp hx
      rw [List.nil_append, hrun, List.takeWhile_append_dropWhile]
    next hn =>
      obtain ⟨l, r, hl, hj⟩ := ih (i + 1)
      refine ⟨p :: l, r, ?_, ?_⟩
      · rw [List.cons_append, List.cons_append, ← hl]
      · intro hpos
        rw [hj hpos, List.length_cons]
        omega

theorem ofList?_toList (x : Ipv6) : ofList? x.pieces.toList = some x := by
  rw [ofList?, dif_pos x.pieces.length_toList]
  rfl

theorem read?_text (x : Ipv6) : read? x.text = some x := by
  obtain ⟨l, r, hps, hj⟩ := exists_longestZeros 0 x.pieces.toList
  have hlength := x.pieces.length_toList
  rw [text]
  generalize longestZeros 0 x.pieces.toList = z at *
  obtain ⟨j, n⟩ := z
  dsimp only at *
  split
  · have hnone := splitDouble_joinColons x.pieces.toList []
    rw [List.append_nil] at hnone
    have hne : x.pieces.toList ≠ [] := by
      intro he
      rw [he] at hlength
      cases hlength
    rw [read?, hnone]
    change (pieces? true ((joinColons x.pieces.toList).splitOn ':')).bind ofList? = some x
    rw [splitOn_joinColons hne, pieces?_map]
    exact ofList?_toList x
  next hn =>
    obtain rfl : j = l.length := by rw [hj (by omega), Nat.zero_add]
    have htake : x.pieces.toList.take l.length = l := by rw [hps, List.append_assoc, List.take_left]
    have hdrop : x.pieces.toList.drop (l.length + n) = r := by
      have hl : l.length + n = (l ++ List.replicate n 0).length := by simp
      rw [hps, hl, List.drop_left]
    have hsum : l.length + n + r.length = 8 := by
      rw [hps] at hlength
      simpa [Nat.add_assoc] using hlength
    have hzeros : 8 - l.length - r.length = n := by omega
    rw [htake, hdrop, read?, splitDouble_joinColons]
    simp only [splitDouble, Option.map_some, List.append_nil, run?_joinColons]
    rw [if_pos (by omega), hzeros, ← hps]
    exact ofList?_toList x

theorem isDigit_of_mem_text {x : Ipv6} {c : Char} (h : c ∈ x.text) : c = ':' ∨ isDigit c := by
  rw [text] at h
  generalize longestZeros 0 x.pieces.toList = z at h
  obtain ⟨j, n⟩ := z
  dsimp only at h
  split at h
  · exact isDigit_of_mem_joinColons h
  · obtain h | h := List.mem_append.mp h
    · exact isDigit_of_mem_joinColons h
    · obtain h | h := List.mem_cons.mp h
      · exact .inl h
      · obtain h | h := List.mem_cons.mp h
        · exact .inl h
        · exact isDigit_of_mem_joinColons h

end Ipv6

end ScrapeCourier.Url
