import ScrapeCourier.Proofs.AddressText
import ScrapeCourier.Proofs.DomainText
import ScrapeCourier.Proofs.Escapes
import ScrapeCourier.Url.Parser

namespace ScrapeCourier.Url

inductive Host.Given : Host → Prop
  | domain {s name : List Char} (hs : Idna.toAscii? s = some name) (hne : name ≠ [])
      (hn : Ipv4.endsInNumber name = false) : Given (.domain name)
  | ipv4 (address : Ipv4) : Given (.ipv4 address)
  | ipv6 (address : Ipv6) : Given (.ipv6 address)

namespace Host

theorem of_bracketed? {s : List Char} {h : Host} (hs : bracketed? s = some (.ok h)) :
    ∃ address, h = .ipv6 address := by
  unfold bracketed? at hs
  split at hs
  · split at hs
    · split at hs
      next address _ =>
        cases hs
        exact ⟨address, rfl⟩
      · cases hs
    · cases hs
  · cases hs

theorem given_of_read {s : List Char} {h : Host} (hs : read s = .ok h) : h.Given := by
  rw [read] at hs
  split at hs
  next r hr =>
    subst hs
    obtain ⟨address, rfl⟩ := of_bracketed? hr
    exact .ipv6 address
  · split at hs
    · cases hs
    · cases hs
    next name hempty hname =>
      obtain ⟨t, -, ht⟩ := Option.bind_eq_some_iff.mp hname
      split at hs
      · split at hs
        next address _ =>
          cases hs
          exact .ipv4 address
        · cases hs
      next hn =>
        cases hs
        refine .domain ht ?_ (Bool.eq_false_iff.mpr hn)
        rintro rfl
        exact hempty rfl

theorem bracketed?_text (address : Ipv6) :
    bracketed? (text (.ipv6 address)) = some (.ok (.ipv6 address)) := by
  have htext : text (.ipv6 address) = '[' :: (address.text ++ [']']) := rfl
  rw [htext, bracketed?, if_pos List.getLast?_concat, List.dropLast_concat, Ipv6.read?_text]

theorem bracketed?_of_not_mem {s : List Char} (h : '[' ∉ s) : bracketed? s = none := by
  apply bracketed?.eq_2
  rintro t rfl
  exact h List.mem_cons_self

/-- A printable character that ends no part of an authority. -/
def isInner (c : Char) : Bool :=
  0x20 < c.toNat && c.toNat < 0x7F && !"#/:?@[\\]|".toList.contains c

theorem isInner_iff {c : Char} : isInner c = true ↔
    0x20 < c.toNat ∧ c.toNat < 0x7F ∧ c ∉ "#/:?@[\\]|".toList := by
  simp only [isInner, Bool.and_eq_true, decide_eq_true_eq, Bool.not_eq_true',
    ← List.contains_iff_mem, Bool.not_eq_true, and_assoc]

theorem isInner_of_isDigit {c : Char} (h : Ascii.isDigit c) : isInner c := by
  have key : ∀ c ∈ "0123456789".toList, isInner c := by decide
  exact key c (Idna.mem_digits h)

theorem isInner_of_isKept {c : Char} (h : c = '.' ∨ Idna.isKept c) : isInner c ∧ c ≠ '%' := by
  obtain rfl | h := h
  · decide
  obtain ⟨hlt, -, hf, -⟩ := Idna.isKept_iff.mp h
  simp only [Idna.Label.isForbidden, Bool.or_eq_false_iff, decide_eq_false_iff_not,
    beq_eq_false_iff_ne] at hf
  obtain ⟨⟨hle, hdel⟩, hmem⟩ := hf
  have hsub : ∀ d ∈ '%' :: "#/:?@[\\]|".toList, d ∈ "%#/:<>?@[\\]^|".toList := by decide
  have hne : c ∉ '%' :: "#/:?@[\\]|".toList := fun hc => by
    rw [List.contains_iff_mem.mpr (hsub c hc)] at hmem
    cases hmem
  rw [List.mem_cons, not_or] at hne
  exact ⟨isInner_iff.mpr ⟨by omega, by omega, hne.2⟩, hne.1⟩

theorem isInner_of_hex {c : Char} (h : Ipv6.isDigit c) : isInner c := by
  rw [Ipv6.isDigit, Bool.or_eq_true] at h
  obtain h | h := h
  · exact isInner_of_isDigit h
  · simp only [Bool.and_eq_true, decide_eq_true_eq] at h
    have hlow : 97 ≤ c.toNat := h.1
    have hhigh : c.toNat ≤ 102 := h.2
    have hmem : ∀ d ∈ "#/:?@[\\]|".toList, d.toNat < 97 ∨ 102 < d.toNat := by decide
    refine isInner_iff.mpr ⟨by omega, by omega, fun hc => ?_⟩
    have := hmem c hc
    omega

theorem read_of_toAscii? {s : List Char} (hs : Idna.toAscii? s = some s) (hne : s ≠ []) :
    read s = if Ipv4.endsInNumber s then
      match Ipv4.read? s with
      | some address => .ok (.ipv4 address)
      | none => .error .badIpv4
    else .ok (.domain s) := by
  have hinner : ∀ c ∈ s, isInner c ∧ c ≠ '%' := fun c hc =>
    isInner_of_isKept (Idna.mem_of_toAscii? hs hc)
  have hascii : ∀ c ∈ s, c.toNat < 0x80 := fun c hc =>
    Nat.lt_trans (isInner_iff.mp (hinner c hc).1).2.1 (by decide)
  have hbracket : '[' ∉ s := fun hc => by cases (hinner _ hc).1
  have hpercent : '%' ∉ s := fun hc => (hinner _ hc).2 rfl
  obtain ⟨c, t, rfl⟩ := List.exists_cons_of_ne_nil hne
  rewrite [read, bracketed?_of_not_mem hbracket, Percent.decode_encode_of_ascii hascii hpercent,
    Utf8.decode?_encode, Option.bind_some, hs]
  rfl

theorem toAscii?_text (address : Ipv4) : Idna.toAscii? address.text = some address.text := by
  rw [Ipv4.text_eq]
  refine Idna.toAscii?_of_digits (List.cons_ne_nil _ _) fun l hl c hc => ?_
  obtain ⟨n, -, rfl⟩ := List.mem_map.mp hl
  exact List.all_eq_true.mp (Unsigned.all_isDigit_text n) c hc

theorem read_text_of_given {h : Host} (hh : h.Given) : read h.text = .ok h := by
  cases hh with
  | domain hs hne hn =>
    rw [text, read_of_toAscii? (Idna.toAscii?_toAscii? hs) hne, if_neg (Bool.eq_false_iff.mp hn)]
  | ipv4 address =>
    have hne : address.text ≠ [] := by simp [Ipv4.text]
    rw [text, read_of_toAscii? (toAscii?_text address) hne, if_pos (Ipv4.endsInNumber_text address),
      Ipv4.read?_text]
  | ipv6 address => rw [read, bracketed?_text]

/-- What the readers for other schemes give beside that. -/
def IsLiteral (h : Host) : Prop :=
  h = .empty ∨ (∃ address, h = .ipv6 address) ∨
    ∃ s, s ≠ [] ∧ s.any isForbidden = false ∧ h = .literal (Percent.encode Percent.isControl s)

theorem isLiteral_of_readLiteral {s : List Char} {h : Host} (hs : readLiteral s = .ok h) :
    h.IsLiteral := by
  rw [readLiteral] at hs
  split at hs
  next r hr =>
    subst hs
    exact .inr (.inl (of_bracketed? hr))
  · split at hs
    · cases hs
      exact .inl rfl
    next hempty =>
      split at hs
      · cases hs
      next hf =>
        cases hs
        exact .inr (.inr ⟨s, mt List.isEmpty_iff.mpr hempty, Bool.eq_false_iff.mpr hf, rfl⟩)

theorem isInner_of_literal {s : List Char} (hs : s.any isForbidden = false) :
    ∀ c ∈ Percent.encode Percent.isControl s, isInner c ∧ isForbidden c = false := by
  apply Percent.forall_mem_encode
  · decide
  · intro c hc hlt hcontrol
    have hf : isForbidden c = false := Bool.eq_false_iff.mpr (List.any_eq_false.mp hs c hc)
    refine ⟨isInner_iff.mpr ⟨?_, hlt, fun hm => ?_⟩, hf⟩
    · refine Percent.lt_of_not_isControl hcontrol ?_
      rintro rfl
      cases hf
    · have hsub : ∀ d ∈ "#/:?@[\\]|".toList, isForbidden d := by decide
      rw [hsub c hm] at hf
      cases hf

theorem readLiteral_text {h : Host} (hh : h.IsLiteral) : readLiteral h.text = .ok h := by
  obtain rfl | ⟨address, rfl⟩ | ⟨s, hne, hs, rfl⟩ := hh
  · rfl
  · rw [readLiteral, bracketed?_text]
  · have hinner := isInner_of_literal hs
    have hbracket : '[' ∉ Percent.encode Percent.isControl s := fun hc => by
      cases (hinner _ hc).1
    have hf : (Percent.encode Percent.isControl s).any isForbidden = false := by
      rw [List.any_eq_false]
      intro c hc
      rw [(hinner c hc).2]
      exact Bool.false_ne_true
    rw [text, readLiteral, bracketed?_of_not_mem hbracket,
      List.isEmpty_eq_false_iff.mpr (Percent.encode_ne_nil hne), hf, Percent.encode_encode (by decide)]
    rfl

/-- Either nothing in the text ends it, or what is between brackets does not. -/
def IsClosed (s : List Char) : Prop :=
  (∀ c ∈ s, isInner c) ∨ ∃ t, s = '[' :: t ++ [']'] ∧ ∀ c ∈ t, c = ':' ∨ isInner c

def isServerChar (c : Char) : Bool := isInner c || ":[]".toList.contains c

theorem IsClosed.all_isServerChar {s : List Char} (h : IsClosed s) : ∀ c ∈ s, isServerChar c := by
  obtain h | ⟨t, rfl, ht⟩ := h
  · intro c hc
    rw [isServerChar, h c hc, Bool.true_or]
  · intro c hc
    simp only [List.cons_append, List.mem_cons, List.mem_append, List.not_mem_nil, or_false] at hc
    obtain rfl | hc | rfl := hc
    · rfl
    · obtain rfl | hin := ht c hc
      · rfl
      · rw [isServerChar, hin, Bool.true_or]
    · rfl

theorem IsClosed.isDrive_eq_false {s : List Char} (h : IsClosed s) : Parser.isDrive s = false := by
  unfold Parser.isDrive
  split
  next l c =>
    obtain h | ⟨t, ht, -⟩ := h
    · have hne (d : Char) (hd : isInner d = false) : (c == d) = false := by
        rw [beq_eq_false_iff_ne]
        rintro rfl
        rw [h c (List.mem_cons_of_mem _ List.mem_cons_self)] at hd
        cases hd
      rw [hne ':' (by decide), hne '|' (by decide), Bool.or_self, Bool.and_false]
    · rw [(List.cons.inj ht).1]
      rfl
  · rfl

theorem Given.text_ne_nil {h : Host} (hh : h.Given) : h.text ≠ [] := by
  cases hh with
  | domain _ hne _ => exact hne
  | ipv4 address => simp [text, Ipv4.text]
  | ipv6 address => exact List.cons_ne_nil _ _

theorem isClosed_ipv6 (address : Ipv6) : IsClosed (text (.ipv6 address)) :=
  .inr ⟨address.text, rfl, fun _ hc => (Ipv6.isDigit_of_mem_text hc).imp_right isInner_of_hex⟩

theorem isClosed_of_given {h : Host} (hh : h.Given) : IsClosed h.text := by
  cases hh with
  | domain hs => exact .inl fun c hc => (isInner_of_isKept (Idna.mem_of_toAscii? hs hc)).1
  | ipv4 address =>
    refine .inl fun c hc => ?_
    obtain rfl | hd := Ipv4.isDigit_of_mem_text hc
    · decide
    · exact isInner_of_isDigit hd
  | ipv6 address => exact isClosed_ipv6 address

theorem isClosed_of_isLiteral {h : Host} (hh : h.IsLiteral) : IsClosed h.text := by
  obtain rfl | ⟨address, rfl⟩ | ⟨s, -, hs, rfl⟩ := hh
  · exact .inl nofun
  · exact isClosed_ipv6 address
  · exact .inl fun c hc => (isInner_of_literal hs c hc).1

end Host

namespace Parser

theorem splitPort_inner {inside : Bool} {s : List Char}
    (h : ∀ c ∈ s, (inside = true ∧ c = ':') ∨ Host.isInner c) (t : List Char) :
    splitPort inside (s ++ t) = (s ++ (splitPort inside t).1, (splitPort inside t).2) := by
  induction s with
  | nil => rfl
  | cons c s ih =>
    rw [List.forall_mem_cons] at h
    have hc : (c == ':' && !inside) = false ∧ (c == '[') = false ∧ (c == ']') = false := by
      obtain ⟨rfl, rfl⟩ | hc := h.1
      · decide
      · have hne (d : Char) (hd : Host.isInner d = false) : (c == d) = false := by
          rw [beq_eq_false_iff_ne]
          rintro rfl
          exact absurd hc (Bool.eq_false_iff.mp hd)
        rw [hne ':' (by decide), hne '[' (by decide), hne ']' (by decide)]
        exact ⟨rfl, rfl, rfl⟩
    rw [List.cons_append, splitPort, hc.1, hc.2.1, hc.2.2]
    simp only [Bool.false_eq_true, if_false, ih h.2]
    rfl

theorem splitPort_of_isClosed {s p : List Char} (h : Host.IsClosed s)
    (hp : p = [] ∨ p.head? = some ':') : splitPort false (s ++ p) = (s, p) := by
  have hport : splitPort false p = ([], p) := by
    obtain rfl | hp := hp
    · rfl
    · obtain ⟨t, rfl⟩ := List.head?_eq_some_iff.mp hp
      rfl
  obtain h | ⟨t, rfl, ht⟩ := h
  · rw [splitPort_inner fun c hc => .inr (h c hc), hport, List.append_nil]
  · have hinside : splitPort true (t ++ ']' :: p) = (t ++ [']'], p) := by
      rw [splitPort_inner fun c hc => (ht c hc).imp_left fun he => ⟨rfl, he⟩]
      change (t ++ ']' :: (splitPort false p).1, (splitPort false p).2) = _
      rw [hport]
    rw [List.append_assoc, List.cons_append]
    change ('[' :: (splitPort true (t ++ ([']'] ++ p))).1, (splitPort true (t ++ ([']'] ++ p))).2) = _
    rw [List.singleton_append, hinside]
    rfl

end Parser

end ScrapeCourier.Url
