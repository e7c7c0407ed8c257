import ScrapeCourier.Idna.Punycode
import ScrapeCourier.Proofs.Checked
import ScrapeCourier.Proofs.Cut
import Mathlib.Tactic.Ring

namespace ScrapeCourier.Idna.Punycode

theorem digitValue?_digitChar {d : Nat} (h : d < 36) : digitValue? (digitChar d) = some d := by
  have key : ∀ d : Fin 36, digitValue? (digitChar d) = some d.val := by decide
  exact key ⟨d, h⟩

theorem digitChar_ne_hyphen {d : Nat} (h : d < 36) : digitChar d ≠ '-' := by
  have key : ∀ d : Fin 36, digitChar d ≠ '-' := by decide
  exact key ⟨d, h⟩

/-- The text is of digits that lead from one state of the decoder to another. -/
def Reads (d : Decoder) (s : List Char) (e : Decoder) : Prop :=
  ∃ vs : List Nat, s = vs.map digitChar ∧ (∀ v ∈ vs, v < 36) ∧ vs.foldlM Decoder.digit d = some e

namespace Reads

variable {c d e : Decoder} {s t : List Char}

theorem nil (d : Decoder) : Reads d [] d := ⟨[], rfl, nofun, rfl⟩

theorem append (hs : Reads c s d) (ht : Reads d t e) : Reads c (s ++ t) e := by
  obtain ⟨vs, rfl, hv, hd⟩ := hs
  obtain ⟨ws, rfl, hw, he⟩ := ht
  refine ⟨vs ++ ws, List.map_append.symm, ?_, ?_⟩
  · intro v hm
    exact (List.mem_append.mp hm).elim (hv v) (hw v)
  · rw [List.foldlM_append, hd]
    exact he

theorem cons {v : Nat} (hv : v < 36) (hd : c.digit v = some d) (ht : Reads d t e) :
    Reads c (digitChar v :: t) e := by
  refine append ⟨[v], rfl, ?_, ?_⟩ ht
  · intro w hw
    rwa [List.mem_singleton.mp hw]
  · rw [List.foldlM_cons, hd]
    rfl

theorem mapM_digitValue? (h : Reads d s e) :
    ∃ vs, s.mapM digitValue? = some vs ∧ vs.foldlM Decoder.digit d = some e := by
  obtain ⟨vs, rfl, hv, he⟩ := h
  refine ⟨vs, ?_, he⟩
  clear he
  induction vs with
  | nil => rfl
  | cons v vs ih =>
    rw [List.forall_mem_cons] at hv
    rw [List.map_cons, List.mapM_cons, digitValue?_digitChar hv.1, ih hv.2]
    rfl

theorem not_mem_hyphen (h : Reads d s e) : '-' ∉ s := by
  obtain ⟨vs, rfl, hv, -⟩ := h
  intro hm
  obtain ⟨v, hvs, hc⟩ := List.mem_map.mp hm
  exact digitChar_ne_hyphen (hv v hvs) hc

end Reads

def Decoder.placed (d : Decoder) (old index : Nat) : Decoder :=
  let count := d.out.length + 1
  let char := d.char + index / count
  let place := index % count
  { out := d.out.take place ++ Char.ofNat char :: d.out.drop place, char, index := place + 1,
    bias := adapt (old = 0) (index - old) count, number := none }

theorem digit_of_lt {d : Decoder} {old weight k q : Nat}
    (hn : d.number.getD (d.index, 1, 36) = (old, weight, k)) (hq : q < threshold d.bias k)
    (hc : (d.char + (d.index + q * weight) / (d.out.length + 1)).isValidChar) :
    d.digit q = some (d.placed old (d.index + q * weight)) := by
  have hchar : ¬(0x10FFFF < d.char + (d.index + q * weight) / (d.out.length + 1) ||
      (0xD800 ≤ d.char + (d.index + q * weight) / (d.out.length + 1) &&
        d.char + (d.index + q * weight) / (d.out.length + 1) < 0xE000)) := by
    simp only [Nat.isValidChar] at hc
    simp only [Bool.or_eq_true, Bool.and_eq_true, decide_eq_true_eq]
    omega
  simp only [Decoder.digit, hn, if_neg (Nat.not_le_of_lt hq), if_neg hchar]
  rfl

theorem reads_encodeDelta {d : Decoder} {old weight k q : Nat}
    (hn : d.number.getD (d.index, 1, 36) = (old, weight, k))
    (hc : (d.char + (d.index + q * weight) / (d.out.length + 1)).isValidChar) :
    Reads d (encodeDelta d.bias k q) (d.placed old (d.index + q * weight)) := by
  have ht := threshold_le d.bias k
  -- By the number that is left; what it is divided by at each digit goes over to the weight.
  induction q using Nat.strongRecOn generalizing d weight k with
  | ind q ih =>
    rw [encodeDelta]
    split
    next hq => exact Reads.cons (by omega) (digit_of_lt hn hq hc) (Reads.nil _)
    next hq =>
      have hone := one_le_threshold d.bias k
      generalize ht' : threshold d.bias k = t at *
      have hv : t ≤ t + (q - t) % (36 - t) := Nat.le_add_right _ _
      have hlt : (q - t) % (36 - t) < 36 - t := Nat.mod_lt _ (by omega)
      have hdiv : (q - t) / (36 - t) ≤ q - t := Nat.div_le_self _ _
      let e : Decoder :=
        { d with
          index := d.index + (t + (q - t) % (36 - t)) * weight
          number := some (old, weight * (36 - t), k + 36) }
      have hindex : e.index + (q - t) / (36 - t) * (weight * (36 - t)) = d.index + q * weight := by
        have hq' := Nat.mod_add_div (q - t) (36 - t)
        have hsum : t + (q - t) % (36 - t) + (36 - t) * ((q - t) / (36 - t)) = q := by omega
        calc e.index + (q - t) / (36 - t) * (weight * (36 - t))
            = d.index + (t + (q - t) % (36 - t) + (36 - t) * ((q - t) / (36 - t))) * weight := by
              simp only [e]
              ring
          _ = d.index + q * weight := by rw [hsum]
      have hd : d.digit (t + (q - t) % (36 - t)) = some e := by
        simp only [Decoder.digit, hn, ht', if_pos hv]
        rfl
      refine Reads.cons (by omega) hd ?_
      rw [← hindex] at hc ⊢
      exact ih _ (by omega) rfl hc (threshold_le _ _)

/-- The encoder is at a place of the text in the pass for the code point `m`, and the decoder has
read what is written so far. The steps that are counted lead from its last place to the next. -/
structure Follows (basic : List Char) (m : Nat) (before after : List Char) (e : Encoder)
    (d : Decoder) : Prop where
  reads : Reads { out := basic } e.out d
  out : d.out = before.filter (·.toNat ≤ m) ++ after.filter (·.toNat < m)
  count : e.count = d.out.length
  bias : e.bias = d.bias
  number : d.number = none
  le : basic.length ≤ e.count
  fresh : d.index = 0 ↔ e.count = basic.length
  char : d.char ≤ m
  delta : d.index + e.delta =
    (m - d.char) * (e.count + 1) + (before.filter (·.toNat ≤ m)).length

variable {basic before after s : List Char} {c : Char} {m n : Nat} {e : Encoder} {d : Decoder}

theorem Follows.placed (h : Follows basic c.toNat before (c :: after) e d) :
    Reads d (encodeDelta e.bias 36 e.delta) (d.placed d.index (d.index + e.delta)) ∧
      d.placed d.index (d.index + e.delta) =
        { out := before.filter (·.toNat ≤ c.toNat) ++ c :: after.filter (·.toNat < c.toNat)
          char := c.toNat
          index := (before.filter (·.toNat ≤ c.toNat)).length + 1
          bias := adapt (d.index = 0) e.delta (e.count + 1)
          number := none } := by
  have hout := h.out
  rw [List.filter_cons_of_neg (by simp)] at hout
  have hpos : (before.filter (·.toNat ≤ c.toNat)).length < d.out.length + 1 := by
    rw [hout, List.length_append]
    omega
  have hdelta := h.delta
  rw [h.count] at hdelta
  have hchar : d.char + (d.index + e.delta) / (d.out.length + 1) = c.toNat := by
    rw [hdelta, Nat.add_comm (_ * _), Nat.add_mul_div_right _ _ (Nat.succ_pos _),
      Nat.div_eq_of_lt hpos, Nat.zero_add, Nat.add_sub_cancel' h.char]
  have hplace : (d.index + e.delta) % (d.out.length + 1) =
      (before.filter (·.toNat ≤ c.toNat)).length := by
    rw [hdelta, Nat.add_comm (_ * _), Nat.add_mul_mod_self_right, Nat.mod_eq_of_lt hpos]
  constructor
  · have hn : d.number.getD (d.index, 1, 36) = (d.index, 1, 36) := by rw [h.number]; rfl
    have hr := reads_encodeDelta (q := e.delta) hn (by rw [Nat.mul_one, hchar]; exact c.valid)
    rwa [Nat.mul_one, ← h.bias] at hr
  · simp only [Decoder.placed, hchar, hplace, h.count, Nat.add_sub_cancel_left]
    rw [hout, List.take_left, List.drop_left, Char.ofNat_toNat]

/-- The character has its place already, and the steps go past it. -/
theorem Follows.past (h : Follows basic m before (c :: after) e d) (hlt : c.toNat < m) :
    Follows basic m (before ++ [c]) after { e with delta := e.delta + 1 } d := by
  refine ⟨h.reads, ?_, h.count, h.bias, h.number, h.le, h.fresh, h.char, ?_⟩
  · rw [h.out, List.filter_append, List.filter_cons_of_pos (by simpa using hlt),
      List.filter_cons_of_pos (by simpa using Nat.le_of_lt hlt), List.filter_nil]
    simp
  · have hdelta := h.delta
    rw [List.filter_append, List.filter_cons_of_pos (by simpa using Nat.le_of_lt hlt)]
    simp only [List.filter_nil, List.length_append, List.length_singleton]
    omega

/-- The character comes in a later pass. -/
theorem Follows.leave (h : Follows basic m before (c :: after) e d) (hlt : m < c.toNat) :
    Follows basic m (before ++ [c]) after e d := by
  have hle : ¬c.toNat ≤ m := Nat.not_le_of_lt hlt
  have hge : ¬c.toNat < m := Nat.not_lt_of_gt hlt
  refine ⟨h.reads, ?_, h.count, h.bias, h.number, h.le, h.fresh, h.char, ?_⟩
  · rw [h.out, List.filter_append, List.filter_cons_of_neg (by simpa using hge),
      List.filter_cons_of_neg (by simpa using hle), List.filter_nil, List.append_nil]
  · rw [h.delta, List.filter_append, List.filter_cons_of_neg (by simpa using hle),
      List.filter_nil, List.append_nil]

/-- The character is written, as the steps from the last place to its own. -/
theorem Follows.write (h : Follows basic c.toNat before (c :: after) e d) :
    ∃ d', Follows basic c.toNat (before ++ [c]) after
      { out := e.out ++ encodeDelta e.bias 36 e.delta, delta := 0, count := e.count + 1
        bias := adapt (e.count = basic.length) e.delta (e.count + 1) } d' := by
  obtain ⟨hreads, hd⟩ := h.placed
  rw [hd] at hreads
  refine ⟨_, h.reads.append hreads, ?_, ?_, ?_, rfl, ?_, ?_, Nat.le_refl _, ?_⟩
  · rw [List.filter_append, List.filter_cons_of_pos (by simp), List.filter_nil]
    simp
  · have hcount := h.count
    rw [h.out, List.filter_cons_of_neg (by simp)] at hcount
    simp only [hcount, List.length_append, List.length_cons]
    omega
  · have hfresh : decide (e.count = basic.length) = decide (d.index = 0) :=
      decide_eq_decide.mpr h.fresh.symm
    simp only [hfresh]
  · exact Nat.le_succ_of_le h.le
  · have hle := h.le
    constructor
    · intro hz
      cases hz
    · intro hz
      dsimp only at hz
      omega
  · rw [List.filter_append, List.filter_cons_of_pos (by simp), List.filter_nil]
    simp

theorem Follows.step (h : Follows basic m before (c :: after) e d) :
    ∃ d', Follows basic m (before ++ [c]) after (e.step basic.length m c) d' := by
  rw [Encoder.step]
  split
  next hlt => exact ⟨d, h.past hlt⟩
  · split
    next heq =>
      subst heq
      exact h.write
    next hlt hne => exact ⟨d, h.leave (by omega)⟩

theorem Follows.run (h : Follows basic m before after e d) :
    ∃ d', Follows basic m (before ++ after) [] (after.foldl (Encoder.step basic.length m) e) d' := by
  -- Over what is behind the place, with what is before it growing.
  induction after generalizing before e d with
  | nil => exact ⟨d, by rwa [List.append_nil]⟩
  | cons c after ih =>
    obtain ⟨d', hd'⟩ := h.step
    have hrest := ih hd'
    rwa [List.append_assoc, List.singleton_append] at hrest

theorem Follows.skip (h : Follows basic n [] s e d) (hn : n ≤ m)
    (hs : ∀ c ∈ s, c.toNat < n ∨ m ≤ c.toNat) :
    Follows basic m [] s { e with delta := e.delta + (m - n) * (e.count + 1) } d := by
  have hchar := h.char
  refine ⟨h.reads, ?_, h.count, h.bias, h.number, h.le, h.fresh, Nat.le_trans hchar hn, ?_⟩
  · rw [h.out]
    apply congrArg
    apply List.filter_congr
    intro c hc
    have := hs c hc
    rw [decide_eq_decide]
    omega
  · have hdelta := h.delta
    have hsum : m - d.char = (n - d.char) + (m - n) := by omega
    simp only [List.filter_nil, List.length_nil, Nat.add_zero] at hdelta ⊢
    rw [← Nat.add_assoc, hdelta, hsum, Nat.add_mul]

theorem Follows.next (h : Follows basic m s [] e d) :
    Follows basic (m + 1) [] s { e with delta := e.delta + 1 } d := by
  have hchar := h.char
  have hout := h.out
  rw [List.filter_nil, List.append_nil] at hout
  refine ⟨h.reads, ?_, h.count, h.bias, h.number, h.le, h.fresh, Nat.le_succ_of_le hchar, ?_⟩
  · rw [hout]
    apply List.filter_congr
    intro c _
    rw [decide_eq_decide, Nat.lt_succ_iff]
  · have hdelta := h.delta
    rw [← hout, ← h.count] at hdelta
    have hsum : m + 1 - d.char = (m - d.char) + 1 := by omega
    simp only [List.filter_nil, List.length_nil, Nat.add_zero]
    rw [← Nat.add_assoc, hdelta, hsum, Nat.add_mul, Nat.one_mul, Nat.add_assoc]

/-- The pass for one code point, from the state behind the one before. -/
def Encoder.pass (basic : List Char) (s : List Char) (x : Encoder × Nat) (m : Nat) :
    Encoder × Nat :=
  let e := { x.1 with delta := x.1.delta + (m - x.2) * (x.1.count + 1) }
  let e := s.foldl (Encoder.step basic.length m) e
  ({ e with delta := e.delta + 1 }, m + 1)

theorem Follows.passes {ms : List Nat} (h : Follows basic n [] s e d) (hms : ms.Pairwise (· < ·))
    (hn : ∀ m ∈ ms, n ≤ m) (hs : ∀ c ∈ s, c.toNat < n ∨ c.toNat ∈ ms) :
    ∃ d', d'.out = s ∧ d'.number = none ∧
      Reads { out := basic } (ms.foldl (Encoder.pass basic s) (e, n)).1.out d' := by
  induction ms generalizing e d n with
  | nil =>
    refine ⟨d, ?_, h.number, h.reads⟩
    rw [h.out, List.filter_nil, List.nil_append, List.filter_eq_self]
    intro c hc
    have hlt := (hs c hc).resolve_right (List.not_mem_nil)
    simpa using hlt
  | cons m ms ih =>
    rw [List.pairwise_cons] at hms
    rw [List.forall_mem_cons] at hn
    have hskip := h.skip hn.1 fun c hc => by
      obtain hlt | hm := hs c hc
      · exact .inl hlt
      · obtain heq | hm := List.mem_cons.mp hm
        · exact .inr heq.ge
        · exact .inr (hms.1 _ hm).le
    obtain ⟨d', hd'⟩ := hskip.run
    refine ih hd'.next hms.2 (fun k hk => hms.1 k hk) fun c hc => ?_
    obtain hlt | hm := hs c hc
    · exact .inl (by omega)
    · obtain heq | hm := List.mem_cons.mp hm
      · exact .inl (by omega)
      · exact .inr hm

theorem mem_insertSorted {x y : Nat} {ms : List Nat} :
    y ∈ insertSorted x ms ↔ y = x ∨ y ∈ ms := by
  induction ms with
  | nil => simp [insertSorted]
  | cons m ms ih =>
    rw [insertSorted]
    split
    · exact List.mem_cons
    · split
      next hx =>
        rw [hx, List.mem_cons]
        tauto
      · rw [List.mem_cons, ih, List.mem_cons]
        tauto

theorem pairwise_insertSorted {x : Nat} {ms : List Nat} (h : ms.Pairwise (· < ·)) :
    (insertSorted x ms).Pairwise (· < ·) := by
  induction ms with
  | nil => exact List.pairwise_singleton _ _
  | cons m ms ih =>
    rw [insertSorted]
    split
    next hx =>
      rw [List.pairwise_cons]
      refine ⟨fun y hy => ?_, h⟩
      obtain rfl | hy := List.mem_cons.mp hy
      · exact hx
      · exact Nat.lt_trans hx (List.rel_of_pairwise_cons h hy)
    · split
      · exact h
      next hx hne =>
        rw [List.pairwise_cons]
        refine ⟨fun y hy => ?_, ih (List.Pairwise.of_cons h)⟩
        obtain rfl | hy := mem_insertSorted.mp hy
        · omega
        · exact List.rel_of_pairwise_cons h hy

def codePoints (s : List Char) : List Nat :=
  s.foldr (fun c ms => if c.toNat < 0x80 then ms else insertSorted c.toNat ms) []

theorem codePoints_cons (c : Char) (s : List Char) : codePoints (c :: s) =
    if c.toNat < 0x80 then codePoints s else insertSorted c.toNat (codePoints s) := rfl

theorem pairwise_codePoints (s : List Char) : (codePoints s).Pairwise (· < ·) := by
  induction s with
  | nil => exact List.Pairwise.nil
  | cons c s ih =>
    rw [codePoints_cons]
    split
    · exact ih
    · exact pairwise_insertSorted ih

theorem mem_codePoints {s : List Char} {m : Nat} :
    m ∈ codePoints s ↔ 0x80 ≤ m ∧ ∃ c ∈ s, c.toNat = m := by
  induction s with
  | nil => simp [codePoints]
  | cons c s ih =>
    rw [codePoints_cons]
    simp only [List.exists_mem_cons_iff]
    split
    next hc =>
      rw [ih]
      constructor
      · rintro ⟨hm, hs⟩
        exact ⟨hm, .inr hs⟩
      · rintro ⟨hm, heq | hs⟩
        · omega
        · exact ⟨hm, hs⟩
    next hc =>
      rw [mem_insertSorted, ih]
      constructor
      · rintro (rfl | ⟨hm, hs⟩)
        · exact ⟨by omega, .inl rfl⟩
        · exact ⟨hm, .inr hs⟩
      · rintro ⟨hm, heq | hs⟩
        · exact .inl heq.symm
        · exact .inr ⟨hm, hs⟩

def basicOf (s : List Char) : List Char := s.filter (·.toNat < 0x80)

theorem exists_reads (s : List Char) :
    ∃ digits d, encode s = basicOf s ++ (if (basicOf s).isEmpty then [] else ['-']) ++ digits ∧
      Reads { out := basicOf s } digits d ∧ d.out = s ∧ d.number = none := by
  have hstart : Follows (basicOf s) 0x80 [] s { count := (basicOf s).length }
      { out := basicOf s } :=
    ⟨.nil _, rfl, rfl, rfl, rfl, Nat.le_refl _, ⟨fun _ => rfl, fun _ => rfl⟩, Nat.le_refl _,
      by simp⟩
  obtain ⟨d, hout, hnumber, hreads⟩ := hstart.passes (pairwise_codePoints s)
    (fun m hm => (mem_codePoints.mp hm).1) fun c hc => by
      by_cases h : c.toNat < 0x80
      · exact .inl h
      · exact .inr (mem_codePoints.mpr ⟨by omega, c, hc, rfl⟩)
  exact ⟨_, d, rfl, hreads, hout, hnumber⟩

theorem decode?_encode (s : List Char) : decode? (encode s) = some s := by
  obtain ⟨digits, d, hs, hreads, hout, hnumber⟩ := exists_reads s
  have hhyphen := hreads.not_mem_hyphen
  obtain ⟨vs, hvs, hd⟩ := hreads.mapM_digitValue?
  have hbasic : (basicOf s).any (0x80 ≤ ·.toNat) = false := by
    rw [List.any_eq_false]
    intro c hc
    simpa using (List.mem_filter.mp hc).2
  have hend : (if d.number.isSome || (basicOf s).any (0x80 ≤ ·.toNat) then none else some d.out) =
      some s := by
    rw [hnumber, hbasic, hout]
    rfl
  simp only [decode?, hs]
  by_cases hempty : (basicOf s).isEmpty
  · rw [List.isEmpty_iff.mp hempty] at hd hend ⊢
    simp only [List.isEmpty_nil, if_true, List.nil_append, Cut.takeWhile_reverse_of_not_mem hhyphen,
      Nat.sub_self, Nat.zero_sub, List.take_zero, hvs, Option.bind_eq_bind, Option.bind_some, hd]
    exact hend
  · simp only [if_neg hempty, List.append_assoc, List.singleton_append,
      Cut.takeWhile_reverse _ hhyphen, Cut.take_length_sub, hvs, Option.bind_eq_bind,
      Option.bind_some, hd]
    exact hend

theorem mem_encode {s : List Char} {c : Char} (h : c ∈ encode s) :
    (c ∈ s ∧ c.toNat < 0x80) ∨ c = '-' ∨ ∃ v < 36, c = digitChar v := by
  obtain ⟨digits, d, hs, ⟨vs, rfl, hv, -⟩, -⟩ := exists_reads s
  rw [hs] at h
  obtain h | h := List.mem_append.mp h
  · obtain h | h := List.mem_append.mp h
    · obtain ⟨hc, hlt⟩ := List.mem_filter.mp h
      exact .inl ⟨hc, by simpa using hlt⟩
    · split at h
      · cases h
      · exact .inr (.inl (List.mem_singleton.mp h))
  · obtain ⟨v, hvs, rfl⟩ := List.mem_map.mp h
    exact .inr (.inr ⟨v, hv v hvs, rfl⟩)

example : encode "bücher".toList = "bcher-kva".toList := by decide +kernel

end ScrapeCourier.Idna.Punycode
