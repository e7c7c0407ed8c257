import ScrapeCourier.Proofs.Checked
import ScrapeCourier.Proofs.Cut
import ScrapeCourier.Proofs.Utf8
import ScrapeCourier.Url.Host

namespace ScrapeCourier

namespace Idna

namespace Normal

variable {s marks : List Char} {starter : Option Char}

theorem mem_flatMap_split (h : ':' ∈ s) : ':' ∈ s.flatMap split :=
  List.mem_flatMap.mpr ⟨':', h, by decide⟩

theorem mem_decompose (h : ':' ∈ s) : ':' ∈ decompose s :=
  mem_flatMap_split (mem_flatMap_split (mem_flatMap_split (mem_flatMap_split h)))

theorem mem_place {x c : Char} : x ∈ place c s ↔ x = c ∨ x ∈ s := by
  induction s with
  | nil => simp [place]
  | cons e s ih =>
    rw [place]
    split
    · simp only [List.mem_cons, ih, or_left_comm]
    · exact List.mem_cons

theorem mem_order {x : Char} : x ∈ order s ↔ x ∈ s := by
  have hf (acc : List Char) : x ∈ s.foldl (fun acc c => place c acc) acc ↔ x ∈ s ∨ x ∈ acc := by
    induction s generalizing acc with
    | nil => simp
    | cons c s ih =>
      rw [List.foldl_cons, ih, mem_place, List.mem_cons]
      exact ⟨by rintro (h | h | h) <;> simp [h], by rintro ((h | h) | h) <;> simp [h]⟩
  rw [order, List.mem_reverse, hf]
  simp

def holdsNoColon (line : List Char) : Bool :=
  ((line.splitOn ' ').map (Range.ofWord decompositionOf)).all fun r => !r.value.parts.contains ':'

theorem cons_eq_map_ofList {ss : List String} {l : List Char} {ls : List (List Char)}
    (h : ss = ls.map String.ofList) : String.ofList l :: ss = (l :: ls).map String.ofList :=
  congrArg (String.ofList l :: ·) h

/-- The lines of the table as lists of characters, which are read once and for all. -/
theorem exists_lines :
    ∃ ls : List (List Char), decompositionWords = ls.map String.ofList ∧ ls.all holdsNoColon := by
  apply Exists.intro
  apply And.intro
  · unfold decompositionWords
    repeat' (first | exact List.map_nil.symm | apply cons_eq_map_ofList)
  · decide +kernel

theorem not_mem_parts {r : Range Decomposition} (hr : r ∈ decompositions) :
    ':' ∉ r.value.parts := by
  obtain ⟨ls, hls, hall⟩ := exists_lines
  rw [decompositions, hls] at hr
  obtain ⟨s, hs, hr⟩ := List.mem_flatMap.mp hr
  obtain ⟨l, hl, rfl⟩ := List.mem_map.mp hs
  rw [String.toList_ofList] at hr
  simpa using List.all_eq_true.mp (List.all_eq_true.mp hall l hl) r hr

theorem pair?_eq_none {a b : Char} (h : a = ':' ∨ b = ':') : pair? a b = none := by
  have hfind : decompositions.find? (fun r => r.value.composes && r.value.parts = [a, b]) = none := by
    rw [List.find?_eq_none]
    intro r hr hp
    rw [Bool.and_eq_true, decide_eq_true_eq] at hp
    apply not_mem_parts hr
    rw [hp.2]
    rcases h with rfl | rfl <;> simp
  have hlead : ¬(0x1100 ≤ a.toNat && a.toNat < 0x1113 && 0x1161 ≤ b.toNat && b.toNat < 0x1176) := by
    rcases h with rfl | rfl <;> simp
  have htail : ¬(isHangul a && (a.toNat - 0xAC00) % 28 = 0 && 0x11A7 < b.toNat &&
      b.toNat < 0x11C3) := by
    rcases h with rfl | rfl <;> simp [isHangul]
  simp only [pair?, if_neg hlead, if_neg htail, hfind, Option.map_none]

theorem composeFrom_cons (a c : Char) (marks s : List Char) :
    (∃ p, pair? a c = some p ∧
      composeFrom (some a) marks (c :: s) = composeFrom (some p) marks s) ∨
    composeFrom (some a) marks (c :: s) =
      if markClass c = 0 then a :: marks.reverse ++ composeFrom (some c) [] s
      else composeFrom (some a) (c :: marks) s := by
  rw [composeFrom.eq_def (some a) marks (c :: s)]
  dsimp only
  split
  next p hp => exact .inl ⟨p, (Option.ite_none_left_eq_some.mp hp).2, rfl⟩
  · exact .inr rfl

theorem mem_composeFrom (h : starter = some ':' ∨ ':' ∈ s) : ':' ∈ composeFrom starter marks s := by
  -- A colon is a starter and composes with nothing, be it the last starter or still to come.
  induction s generalizing starter marks with
  | nil =>
    rcases h with rfl | h
    · simp [composeFrom]
    · cases h
  | cons c s ih =>
    have hclass : c = ':' → markClass c = 0 := by
      rintro rfl
      decide
    cases starter with
    | none =>
      have hc : ':' = c ∨ ':' ∈ s := by simpa using h
      rw [composeFrom]
      split
      · exact ih (hc.imp (fun e => congrArg some e.symm) id)
      next hn =>
        have hs := hc.resolve_left fun e => hn (hclass e.symm)
        exact List.mem_cons_of_mem _ (ih (.inr hs))
    | some a =>
      have hc : a = ':' ∨ ':' = c ∨ ':' ∈ s := by simpa using h
      obtain ⟨p, hpair, hjoin⟩ | hbehind := composeFrom_cons a c marks s
      · have hne : ¬(a = ':' ∨ c = ':') := by
          intro e
          rw [pair?_eq_none e] at hpair
          cases hpair
        rw [hjoin]
        obtain e | e | hs := hc
        · exact absurd (.inl e) hne
        · exact absurd (.inr e.symm) hne
        · exact ih (.inr hs)
      · rw [hbehind]
        split
        · obtain e | e | hs := hc
          · simp [e]
          · exact List.mem_append_right _ (ih (.inl (congrArg some e.symm)))
          · exact List.mem_append_right _ (ih (.inr hs))
        next hn =>
          obtain e | e | hs := hc
          · exact ih (.inl (congrArg some e))
          · exact absurd (hclass e.symm) hn
          · exact ih (.inr hs)

theorem mem_normalize (h : ':' ∈ s) : ':' ∈ normalize s := by
  rw [normalize]
  split
  · exact h
  · exact mem_composeFrom (.inr (mem_order.mpr (mem_decompose h)))

end Normal

namespace Punycode

theorem mem_out_of_digit {d e : Decoder} {v : Nat} {c : Char} (h : d.digit v = some e)
    (hc : c ∈ d.out) : c ∈ e.out := by
  simp only [Decoder.digit] at h
  split at h
  · cases h
    exact hc
  · split at h
    · cases h
    · cases h
      rw [← List.take_append_drop _ d.out] at hc
      exact (List.mem_append.mp hc).elim (List.mem_append_left _)
        fun hc => List.mem_append_right _ (List.mem_cons_of_mem _ hc)

theorem mem_out_of_foldlM {vs : List Nat} {d e : Decoder} {c : Char}
    (h : vs.foldlM Decoder.digit d = some e) (hc : c ∈ d.out) : c ∈ e.out := by
  induction vs generalizing d with
  | nil =>
    cases h
    exact hc
  | cons v vs ih =>
    rw [List.foldlM_cons] at h
    obtain ⟨d', hd, he⟩ := Option.bind_eq_some_iff.mp h
    exact ih he (mem_out_of_digit hd hc)

theorem not_mem_of_mapM {s : List Char} {vs : List Nat} (h : s.mapM digitValue? = some vs) :
    ':' ∉ s := by
  intro hc
  obtain ⟨v, -, hv⟩ := exists_of_mapM_eq_some h hc
  cases hv

theorem mem_decode? {s t : List Char} (h : decode? s = some t) (hc : ':' ∈ s) : ':' ∈ t := by
  simp only [decode?] at h
  obtain ⟨vs, hvs, h⟩ := Option.bind_eq_some_iff.mp h
  obtain ⟨d, hd, h⟩ := Option.bind_eq_some_iff.mp h
  obtain ⟨-, ht⟩ := Option.ite_none_left_eq_some.mp h
  cases ht
  apply mem_out_of_foldlM hd
  have hdigits := not_mem_of_mapM hvs
  by_cases hs : '-' ∈ s
  · obtain ⟨pre, post, rfl, hpost⟩ := Cut.exists_last hs
    simp only [Cut.takeWhile_reverse _ hpost, Cut.take_length_sub] at hdigits ⊢
    split at hdigits
    · exact absurd hc hdigits
    next hpre =>
      rw [if_neg hpre]
      rcases List.mem_append.mp hc with hc | hc
      · exact hc
      · rcases List.mem_cons.mp hc with hc | hc
        · cases hc
        · exact absurd hc hdigits
  · simp only [Cut.takeWhile_reverse_of_not_mem hs, Nat.sub_self, Nat.zero_sub, List.take_zero,
      List.isEmpty_nil, if_true] at hdigits
    exact absurd hc hdigits

end Punycode

theorem mem_readLabel? {l t : List Char} (h : readLabel? l = some t) (hc : ':' ∈ l) : ':' ∈ t := by
  unfold readLabel? at h
  split at h
  next s =>
    obtain ⟨ht, -⟩ := Option.filter_eq_some_iff.mp h
    simp only [List.mem_cons, Char.reduceEq, false_or] at hc
    exact Punycode.mem_decode? ht hc
  next =>
    cases h
    exact hc

theorem not_mem_of_isValid {l : List Char} (h : Label.isValid l) : ':' ∉ l := by
  intro hc
  simp only [Label.isValid, Bool.and_eq_true] at h
  have hv := List.all_eq_true.mp h.1.1.1 ':' hc
  simp [Label.isForbidden] at hv

theorem exists_label {s : List Char} (h : ':' ∈ s) : ∃ l ∈ s.splitOn '.', ':' ∈ l := by
  have hs : ':' ∈ ['.'].intercalate (s.splitOn '.') := by rwa [List.intercalate_splitOn]
  exact (Cut.mem_intercalate hs).resolve_left (by decide)

theorem toAscii?_eq_none {s : List Char} (h : ':' ∈ s) : toAscii? s = none := by
  cases ht : toAscii? s with
  | none => rfl
  | some t =>
    simp only [toAscii?] at ht
    obtain ⟨mapped, hm, ht⟩ := Option.bind_eq_some_iff.mp ht
    obtain ⟨labels, hl, ht⟩ := Option.bind_eq_some_iff.mp ht
    obtain ⟨image, hi, he⟩ := exists_of_mapM_eq_some hm h
    have hmapped : ':' ∈ mapped.flatten := List.mem_flatten.mpr ⟨image, hi, by
      cases he
      decide⟩
    obtain ⟨l, hls, hc⟩ := exists_label (Normal.mem_normalize hmapped)
    obtain ⟨label, hlabel, hr⟩ := exists_of_mapM_eq_some hl hls
    have hv : labels.all Label.isValid := by
      split at ht
      next hv => exact (Bool.and_eq_true_iff.mp hv).1
      · cases ht
    exact absurd (mem_readLabel? hr hc)
      (not_mem_of_isValid (List.all_eq_true.mp hv label hlabel))

end Idna

namespace Utf8

theorem low_of_lead {b : UInt8} {p : Pending} (h : lead b = .more p) : 0x80 ≤ p.low := by
  simp only [lead] at h
  repeat' split at h
  all_goals simp only [Step.more.injEq, reduceCtorEq] at h
  all_goals subst h; simp

theorem low_of_step {p q : Pending} {b : UInt8} (h : p.step b = .more q) : 0x80 ≤ q.low := by
  simp only [Pending.step] at h
  repeat' split at h
  all_goals first | (cases h; simp) | cases h

theorem mem_scan {s : Octets} {state : Option Pending} (h : Octet.colon ∈ s)
    (hp : ∀ p, state = some p → 0x80 ≤ p.low) : some ':' ∈ scan state s := by
  induction s generalizing state with
  | nil => cases h
  | cons b s ih =>
    have hnone : ∀ p : Pending, none = some p → 0x80 ≤ p.low := by
      intro p hp
      cases hp
    -- No octet that continues a character is as low as a colon, which so is read as a first one.
    have hlead (hb : Octet.colon = b ∨ Octet.colon ∈ s) : some ':' ∈ scan none (b :: s) := by
      rw [scan]
      obtain rfl | hs := hb
      · exact List.mem_cons_self
      · split
        · exact List.mem_cons_of_mem _ (ih hs hnone)
        next q hq =>
          apply ih hs
          intro p hp
          cases hp
          exact low_of_lead hq
        · exact List.mem_cons_of_mem _ (ih hs hnone)
    cases state with
    | none => exact hlead (List.mem_cons.mp h)
    | some p =>
      have hill : p.step Octet.colon = .ill := by
        have hlow := hp p rfl
        rw [Pending.step, if_neg]
        simp only [Bool.and_eq_true, decide_eq_true_eq, not_and]
        intro hle
        exact absurd (Nat.le_trans hlow hle) (by decide)
      rw [scan]
      rcases List.mem_cons.mp h with rfl | hs
      · rw [hill]
        exact List.mem_cons_of_mem _ (hlead (.inl rfl))
      · split
        · exact List.mem_cons_of_mem _ (ih hs hnone)
        next q hq =>
          apply ih hs
          intro p hp
          cases hp
          exact low_of_step hq
        · exact List.mem_cons_of_mem _ (hlead (.inr hs))

theorem mem_decode? {s : Octets} {t : List Char} (h : decode? s = some t) (hc : Octet.colon ∈ s) :
    ':' ∈ t := by
  have hscan : some ':' ∈ scan none s := by
    apply mem_scan hc
    intro p hp
    cases hp
  obtain ⟨c, hc, he⟩ := exists_of_mapM_eq_some h hscan
  cases he
  exact hc

end Utf8

namespace Url

theorem Percent.mem_decode {s : Octets} (h : Octet.colon ∈ s) : Octet.colon ∈ decode s := by
  fun_induction decode s with
  | case1 b x l s hi lo hl hx hb ih =>
    simp only [decide_eq_true_eq] at hb
    rcases List.mem_cons.mp h with rfl | h
    · cases hb
    rcases List.mem_cons.mp h with rfl | h
    · cases hx
    rcases List.mem_cons.mp h with rfl | h
    · cases hl
    · exact List.mem_cons_of_mem _ (ih h)
  | case2 b x l s hn ih =>
    rcases List.mem_cons.mp h with rfl | h
    · exact List.mem_cons_self
    · exact List.mem_cons_of_mem _ (ih h)
  | case3 b s hn ih =>
    rcases List.mem_cons.mp h with rfl | h
    · exact List.mem_cons_self
    · exact List.mem_cons_of_mem _ (ih h)
  | case4 => exact h

/-- A bracket at the end would make the text an address. -/
theorem Host.read_ne_ok {s : List Char} (h : ':' ∈ s) (hl : s.getLast? ≠ some ']') (host : Host) :
    read s ≠ .ok host := by
  have hnone : (Utf8.decode? (Percent.decode (Utf8.encode s))).bind Idna.toAscii? = none := by
    cases ht : Utf8.decode? (Percent.decode (Utf8.encode s)) with
    | none => rfl
    | some t =>
      refine Idna.toAscii?_eq_none (Utf8.mem_decode? ht (Percent.mem_decode ?_))
      exact List.mem_flatMap.mpr ⟨':', h, by decide⟩
  rw [read]
  split
  next r hr =>
    unfold bracketed? at hr
    split at hr
    next t =>
      have ht : t.getLast? ≠ some ']' := by
        cases t with
        | nil => exact nofun
        | cons c t => rwa [List.getLast?_cons_cons] at hl
      rw [if_neg ht] at hr
      cases hr
      exact nofun
    · cases hr
  next => simp [hnone]

end Url

end ScrapeCourier
