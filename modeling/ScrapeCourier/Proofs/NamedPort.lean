import ScrapeCourier.Proofs.Cut
import ScrapeCourier.Proofs.Digits
import ScrapeCourier.Proofs.Domain
import ScrapeCourier.Proofs.TargetText
import ScrapeCourier.Url.Parser

namespace ScrapeCourier

open Http

/-- Whether the end of a text is between brackets. -/
def insideBrackets (inside : Bool) (s : List Char) : Bool :=
  s.foldl (fun i c => if c == '[' then true else if c == ']' then false else i) inside

namespace Http.Target

variable {s : List Char}

def AuthorityScan.inside (a : AuthorityScan) : Bool := a.opened && !a.closed

theorem AuthorityScan.inside_of_step {a b : AuthorityScan} {c : Char} (h : a.step c = .ok b)
    (ha : a.closed → a.opened) :
    (b.closed → b.opened) ∧
      b.inside = if c == '[' then true else if c == ']' then false else a.inside := by
  by_cases h₁ : c = ':'
  · subst h₁
    simp only [step, if_true] at h
    split at h
    · cases h
    · cases h
      exact ⟨ha, rfl⟩
  rw [step, if_neg h₁] at h
  by_cases h₂ : c = '['
  · subst h₂
    simp only [if_true] at h
    split at h
    · cases h
    · cases h
      simp_all [inside]
  rw [if_neg h₂] at h
  by_cases h₃ : c = ']'
  · subst h₃
    simp only [if_true] at h
    split at h
    · cases h
    · cases h
      simp_all [inside]
  rw [if_neg h₃] at h
  have hb : b.opened = a.opened ∧ b.closed = a.closed := by
    repeat' split at h
    all_goals first | (cases h; exact ⟨rfl, rfl⟩) | cases h
  refine ⟨by rwa [hb.1, hb.2], ?_⟩
  simp [h₂, h₃, inside, hb]

theorem insideBrackets_of_foldlM {a b : AuthorityScan} (h : s.foldlM AuthorityScan.step a = .ok b)
    (ha : a.closed → a.opened) : insideBrackets a.inside s = b.inside := by
  induction s generalizing a with
  | nil =>
    cases h
    rfl
  | cons c s ih =>
    rw [List.foldlM_cons] at h
    obtain ⟨a', hc, hs⟩ := bind_eq_ok.mp h
    obtain ⟨ha', hi⟩ := AuthorityScan.inside_of_step hc ha
    rw [insideBrackets, List.foldl_cons, ← hi]
    exact ih hs ha'

/-- Every bracket of an authority is closed. -/
theorem insideBrackets_eq_false (h : checkAuthority s = .ok ()) : insideBrackets false s = false := by
  obtain ⟨b, hb, hf⟩ := bind_eq_ok.mp h
  rw [show false = ({} : AuthorityScan).inside from rfl, insideBrackets_of_foldlM hb (by simp)]
  rw [AuthorityScan.finish] at hf
  split at hf
  · cases hf
  next hn =>
    simp only [Bool.or_eq_true, bne_iff_ne, not_or, ne_eq, not_not] at hn
    simp [AuthorityScan.inside, hn.1.1.1]

end Http.Target

/-- What is outside brackets counted from further back is outside them counted from here. -/
theorem insideBrackets_mono {s : List Char} {i : Bool} (h : insideBrackets i s = false) :
    insideBrackets false s = false := by
  cases i with
  | false => exact h
  | true =>
    induction s with
    | nil => cases h
    | cons c s ih =>
      rw [insideBrackets, List.foldl_cons] at h ⊢
      by_cases h₁ : c == '['
      · simpa [h₁] using h
      by_cases h₂ : c == ']'
      · simpa [h₁, h₂] using h
      · simp only [h₁, h₂] at h ⊢
        exact ih h

theorem insideBrackets_append (i : Bool) (s t : List Char) :
    insideBrackets i (s ++ t) = insideBrackets (insideBrackets i s) t := List.foldl_append

theorem insideBrackets_of_not_mem {s : List Char} {i : Bool} (h₁ : '[' ∉ s) (h₂ : ']' ∉ s) :
    insideBrackets i s = i := by
  induction s with
  | nil => rfl
  | cons c s ih =>
    rw [List.mem_cons, not_or] at h₁ h₂
    rw [insideBrackets, List.foldl_cons]
    simp only [beq_eq_false_iff_ne.mpr (Ne.symm h₁.1), beq_eq_false_iff_ne.mpr (Ne.symm h₂.1)]
    exact ih h₁.2 h₂.2

/-- A text that ends with a colon and the digits of a port, with every bracket before them closed. -/
structure EndsInPort (s pre digits : List Char) (port : Nat) : Prop where
  cut : s = pre ++ ':' :: digits
  reads : Unsigned.read? 65536 digits = some port
  closed : insideBrackets false pre = false

namespace Unsigned

theorem digits?_eq_some {s : List Char} {n : Nat} (h : digits? s = some n) :
    s ≠ [] ∧ s.all Ascii.isDigit ∧ value s = n := by
  rw [digits?] at h
  split at h
  next hs =>
    simp only [Bool.and_eq_true, Bool.not_eq_true', List.isEmpty_eq_false_iff] at hs
    exact ⟨hs.1, hs.2, Option.some.inj h⟩
  · cases h

theorem mem_of_read? {bound n : Nat} {s : List Char} (h : read? bound s = some n) {c : Char}
    (hc : c ∈ s) : c = '+' ∨ Ascii.isDigit c := by
  have hd {t : List Char} (ht : (digits? t).filter (· < bound) = some n) (hc : c ∈ t) :
      Ascii.isDigit c :=
    List.all_eq_true.mp (digits?_eq_some (Option.filter_eq_some_iff.mp ht).1).2.1 c hc
  unfold read? at h
  split at h
  next t =>
    rcases List.mem_cons.mp hc with rfl | hc
    · exact .inl rfl
    · exact .inr (hd h hc)
  · exact .inr (hd h hc)

theorem not_mem_of_read? {bound n : Nat} {s : List Char} (h : read? bound s = some n) {c : Char}
    (h₁ : c ≠ '+') (h₂ : Ascii.isDigit c = false) : c ∉ s := by
  intro hc
  rcases mem_of_read? h hc with rfl | hd
  · exact h₁ rfl
  · rw [h₂] at hd
    cases hd

end Unsigned

namespace Url.Parser

def serverOf (text : List Char) : List Char := ((splitUserinfo text).getD ([], text)).2

theorem splitPort_append (i : Bool) (s : List Char) : (splitPort i s).1 ++ (splitPort i s).2 = s := by
  induction s generalizing i with
  | nil => rfl
  | cons c s ih =>
    rw [splitPort]
    split
    · rfl
    · exact congrArg (c :: ·) (ih _)

theorem splitPort_of_colon {i : Bool} {s : List Char} (h : insideBrackets i s = false)
    (t : List Char) : ∃ p, (splitPort i (s ++ ':' :: t)).2 = ':' :: p := by
  induction s generalizing i with
  | nil =>
    cases h
    exact ⟨t, rfl⟩
  | cons c s ih =>
    rw [List.cons_append, splitPort]
    split
    next hc =>
      simp only [Bool.and_eq_true, beq_iff_eq] at hc
      exact ⟨_, by rw [hc.1]⟩
    · exact ih h

theorem splitPort_snd (i : Bool) (s : List Char) :
    (splitPort i s).2 = [] ∨ ∃ p, (splitPort i s).2 = ':' :: p := by
  induction s generalizing i with
  | nil => exact .inl rfl
  | cons c s ih =>
    rw [splitPort]
    split
    next hc =>
      rw [Bool.and_eq_true, beq_iff_eq] at hc
      exact .inr ⟨s, by rw [hc.1]⟩
    · exact ih _

theorem digits_of_readPort {scheme p unread : List Char} {port : Option Nat} (hb : '\\' ∉ p)
    (h : readPort scheme p = .ok (port, unread)) :
    p.all Ascii.isDigit ∧ Unsigned.value p < 65536 ∧
      port = if p = [] ∨ defaultPort? scheme = some (Unsigned.value p) then none
        else some (Unsigned.value p) := by
  simp only [readPort] at h
  split at h
  · cases h
  next hn =>
    simp only [Bool.or_eq_true, decide_eq_true_eq, Bool.not_eq_true', not_or, Bool.not_eq_false,
      List.isEmpty_iff] at hn
    have hrest : p.dropWhile Ascii.isDigit = [] := hn.2.resolve_right fun hh =>
      hb ((List.dropWhile_sublist _).subset (List.mem_of_head? hh))
    have htake : p.takeWhile Ascii.isDigit = p := by
      have h := List.takeWhile_append_dropWhile (p := Ascii.isDigit) (l := p)
      rwa [hrest, List.append_nil] at h
    rw [htake] at h hn
    cases h
    refine ⟨List.all_eq_true.mpr (List.dropWhile_eq_nil_iff.mp hrest), Nat.lt_of_not_le hn.1, ?_⟩
    simp

/-- A port that is read to the end is the text behind the last colon. -/
theorem port_of_readPort {scheme s pre digits unread : List Char} {q : Nat} {port : Option Nat}
    (hs : EndsInPort s pre digits q) (hb : '\\' ∉ s)
    (h : readPort scheme ((splitPort false s).2.drop 1) = .ok (port, unread)) :
    port = if defaultPort? scheme = some q then none else some q := by
  obtain ⟨p, hp⟩ := splitPort_of_colon hs.closed digits
  rw [← hs.cut] at hp
  have hcut : (splitPort false s).1 ++ ':' :: p = pre ++ ':' :: digits := by
    rw [← hp, splitPort_append, hs.cut]
  have hbp : '\\' ∉ p := by
    intro hc
    apply hb
    rw [← splitPort_append false s, hp]
    exact List.mem_append_right _ (List.mem_cons_of_mem _ hc)
  rw [hp, List.drop_one, List.tail_cons] at h
  obtain ⟨hall, -, hport⟩ := digits_of_readPort hbp h
  have hpd : p = digits := by
    have hc : ':' ∉ p := by
      intro hc
      have := List.all_eq_true.mp hall ':' hc
      cases this
    have hd : ':' ∉ digits := Unsigned.not_mem_of_read? hs.reads (by decide) (by decide)
    rw [← Cut.takeWhile_reverse (splitPort false s).1 hc, hcut, Cut.takeWhile_reverse _ hd]
  have hq := hs.reads
  rw [← hpd, Unsigned.read?_of_all_isDigit hall] at hq
  obtain ⟨hne, -, hv⟩ := Unsigned.digits?_eq_some (Option.filter_eq_some_iff.mp hq).1
  rw [hport, hv]
  simp [hne]

theorem serverOf_suffix (s : List Char) : serverOf s <:+ s := by
  rw [serverOf, splitUserinfo]
  split
  · rw [← List.reverse_prefix, Option.getD_some, List.reverse_reverse]
    exact List.takeWhile_prefix _
  · exact List.suffix_refl s

theorem endsInPort_serverOf {s pre digits : List Char} {q : Nat} (h : EndsInPort s pre digits q) :
    ∃ pre', EndsInPort (serverOf s) pre' digits q := by
  by_cases hs : '@' ∈ s
  · have hd : '@' ∉ ':' :: digits := by
      rw [List.mem_cons, not_or]
      exact ⟨by decide, Unsigned.not_mem_of_read? h.reads (by decide) (by decide)⟩
    have hpre : '@' ∈ pre := by
      rw [h.cut] at hs
      exact (List.mem_append.mp hs).resolve_right hd
    obtain ⟨user, pre', hcut, hpre'⟩ := Cut.exists_last hpre
    have hserver : serverOf s = pre' ++ ':' :: digits := by
      have hn : '@' ∉ pre' ++ ':' :: digits := by
        intro hm
        exact (List.mem_append.mp hm).elim hpre' hd
      have he : s = user ++ '@' :: (pre' ++ ':' :: digits) := by rw [h.cut, hcut]; simp
      rw [serverOf, splitUserinfo, if_pos (List.contains_iff_mem.mpr hs), he]
      exact Cut.takeWhile_reverse _ hn
    refine ⟨pre', hserver, h.reads, ?_⟩
    have hclosed := h.closed
    rw [hcut, insideBrackets_append] at hclosed
    exact insideBrackets_mono hclosed
  · refine ⟨pre, ?_, h.reads, h.closed⟩
    rw [serverOf, splitUserinfo, if_neg (mt List.contains_iff_mem.mp hs)]
    exact h.cut

def inAuthority (scheme : List Char) (c : Char) : Bool :=
  !(isSlash (kindOf scheme).isSpecial c || endsPath c)

def userinfoOf (text : List Char) : List Char := ((splitUserinfo text).getD ([], text)).1

def readHost (scheme s : List Char) : Except UrlError Host :=
  if (kindOf scheme).isSpecial then Host.read s else Host.readLiteral s

/-- The parts of an authority, as its text is split into them. A special scheme has a host, and
where there is none nothing else stands beside it. -/
structure IsAuthority (scheme text : List Char) (a : Authority) (unread : List Char) : Prop where
  userinfo : readUserinfo (userinfoOf text) = (a.username, a.password)
  host : readHost scheme (splitPort false (serverOf text)).1 = .ok a.host
  named : (kindOf scheme).isSpecial → (splitPort false (serverOf text)).1 ≠ []
  port : readPort scheme ((splitPort false (serverOf text)).2.drop 1) = .ok (a.port, unread)
  alone : a.host = .empty → (splitPort false (serverOf text)).2.head? ≠ some ':' ∧
    a.username = [] ∧ a.password = none

theorem of_readAuthority {scheme s out : List Char} {a : Authority}
    (h : readAuthority scheme s = .ok (a, out)) :
    ∃ unread, IsAuthority scheme (s.takeWhile (inAuthority scheme)) a unread ∧
      out = unread ++ s.dropWhile (inAuthority scheme) := by
  unfold readAuthority at h
  extract_lets special inAuthority text rest at h
  change ∃ unread, IsAuthority scheme text a unread ∧ out = unread ++ rest
  generalize text.contains '@' = marked at h
  dsimp only at h
  split at h
  · cases h
  split at h
  · cases h
  next hnamed =>
  rw [← apply_ite (· >>= _)] at h
  obtain ⟨host, hhost, h⟩ := bind_eq_ok.mp h
  split at h
  · cases h
  next hcolon =>
  obtain ⟨⟨port, unread⟩, hport, h⟩ := bind_eq_ok.mp h
  split at h
  · cases h
  next halone =>
  cases h
  refine ⟨unread, ⟨rfl, hhost, ?_, hport, ?_⟩, rfl⟩
  · intro hs he
    apply hnamed
    rw [Bool.and_eq_true]
    exact ⟨hs, List.isEmpty_iff.mpr he⟩
  · intro he
    simp only [Bool.and_eq_true, decide_eq_true_eq, not_and, Bool.not_eq_true', Bool.not_eq_false,
      List.isEmpty_iff, Option.isNone_iff_eq_none] at hcolon halone
    exact ⟨hcolon he, halone he⟩

theorem not_isSlash_of_inAuthority {c : Char} (h : Target.inAuthority c) (special : Bool) :
    isSlash special c = false := by
  have hend := Target.not_endsAuthority_of_inAuthority h
  simp only [Target.endsAuthority, Bool.or_eq_false_iff] at hend
  rw [isSlash, hend.1.1, beq_eq_false_iff_ne.mpr (Target.ne_backslash_of_inAuthority h),
    Bool.and_false, Bool.or_false]

theorem takeWhile_inAuthority (scheme : List Char) {s t : List Char} (hs : s.all Target.inAuthority)
    (ht : t = [] ∨ t.head? = some '/') : (s ++ t).takeWhile (inAuthority scheme) = s := by
  have hall : ∀ c ∈ s, inAuthority scheme c = true := by
    intro c hc
    have hin := List.all_eq_true.mp hs c hc
    have hend := Target.not_endsAuthority_of_inAuthority hin
    simp only [Target.endsAuthority, Bool.or_eq_false_iff] at hend
    rw [inAuthority, not_isSlash_of_inAuthority hin, endsPath, hend.1.2, hend.2]
    rfl
  rw [List.takeWhile_append_of_pos hall]
  rcases ht with rfl | ht
  · exact List.append_nil s
  · obtain ⟨t, rfl⟩ := List.head?_eq_some_iff.mp ht
    rw [List.takeWhile_cons_of_neg (by simp [inAuthority, isSlash]), List.append_nil]

theorem port_of_readServer {scheme s t pre digits : List Char} {q : Nat} {u : Url}
    (hs : s.all Target.inAuthority) (hp : EndsInPort s pre digits q)
    (ht : t = [] ∨ t.head? = some '/') (h : readServer scheme (s ++ t) = .ok u) :
    u.scheme = scheme ∧ u.port = if defaultPort? scheme = some q then none else some q := by
  simp only [readServer] at h
  obtain ⟨⟨a, rest⟩, ha, h⟩ := bind_eq_ok.mp h
  cases h
  obtain ⟨unread, hparts, -⟩ := of_readAuthority ha
  have hr := hparts.port
  rw [takeWhile_inAuthority scheme hs ht] at hr
  obtain ⟨pre', hp'⟩ := endsInPort_serverOf hp
  refine ⟨rfl, port_of_readPort hp' (fun hb => ?_) hr⟩
  exact Target.ne_backslash_of_inAuthority
    (List.all_eq_true.mp hs _ ((serverOf_suffix s).subset hb)) rfl

theorem getLast_of_endsInPort {s pre digits : List Char} {q : Nat} (h : EndsInPort s pre digits q) :
    ∃ c, s.getLast? = some c ∧ (c = '+' ∨ Ascii.isDigit c) := by
  have hne : digits ≠ [] := by
    rintro rfl
    cases h.reads
  refine ⟨digits.getLast hne, ?_, Unsigned.mem_of_read? h.reads (List.getLast_mem hne)⟩
  rw [h.cut, List.getLast?_append, List.getLast?_cons, List.getLast?_eq_some_getLast hne]
  rfl

theorem readFileServer_ne_ok {s t pre digits : List Char} {q : Nat} (hs : s.all Target.inAuthority)
    (hp : EndsInPort s pre digits q) (ht : t = [] ∨ t.head? = some '/') (u : Url) :
    readFileServer (s ++ t) ≠ .ok u := by
  obtain ⟨c, hlast, hc⟩ := getLast_of_endsInPort hp
  have htext := takeWhile_inAuthority "file".toList hs ht
  have hdrive : isDrive s = false := by
    unfold isDrive
    split
    next l d =>
      obtain rfl : d = c := by simpa using hlast
      have hd : d ≠ ':' ∧ d ≠ '|' := by
        constructor <;> rintro rfl <;> rcases hc with hc | hc <;> cases hc
      simp [hd]
    · rfl
  have hne : s.isEmpty = false := by
    cases s with
    | nil => cases hlast
    | cons => rfl
  -- The colon is part of the host here, where only brackets could hold it.
  have hhost (host : Host) : Host.read s ≠ .ok host := by
    refine Host.read_ne_ok ?_ ?_ host
    · rw [hp.cut]
      simp
    · rw [hlast]
      rintro e
      cases e
      rcases hc with hc | hc <;> cases hc
  intro h
  unfold readFileServer at h
  extract_lets inHost text at h
  have ht : text = s := htext
  rw [ht, hdrive, if_neg Bool.false_ne_true, hne, if_neg Bool.false_ne_true] at h
  obtain ⟨host, hh, -⟩ := bind_eq_ok.mp h
  exact hhost host hh

theorem not_isDropped {c : Char} (h : 0x20 ≤ c.toNat) : (!isDropped c) = true := by
  have hne (d : Char) (hd : d.toNat < 0x20) : (c == d) = false := by
    rw [beq_eq_false_iff_ne]
    rintro rfl
    omega
  rw [isDropped, hne '\t' (by decide), hne '\n' (by decide), hne '\r' (by decide)]
  rfl

theorem clean_of_ends {s : List Char} (hs : ∀ c ∈ s, 0x20 ≤ c.toNat)
    (hfirst : ∀ c, s.head? = some c → 0x20 < c.toNat)
    (hlast : ∀ c, s.getLast? = some c → 0x20 < c.toNat) : clean s = s := by
  have hkept {c : Char} (hc : 0x20 < c.toNat) : isTrimmed c = false := by
    rw [isTrimmed, decide_eq_false_iff_not]
    omega
  rw [clean, Cut.dropWhile_of_head? fun c hc => hkept (hfirst c hc),
    Cut.dropWhile_of_getLast? fun c hc => hkept (hlast c hc),
    List.filter_eq_self.mpr fun c hc => not_isDropped (hs c hc)]

theorem clean_of_visible {s : List Char} (h : ∀ c ∈ s, 0x21 ≤ c.toNat) : clean s = s :=
  clean_of_ends (fun c hc => Nat.le_of_succ_le (h c hc)) (fun c hc => h c (List.mem_of_head? hc))
    fun c hc => h c (List.mem_of_getLast? hc)

theorem splitScheme?_append {name : List Char} (hn : name.all Ascii.isSchemeChar)
    (s : List Char) : splitScheme? (name ++ ':' :: s) =
      if (name.head?.map Ascii.isAlpha).getD false then some (Ascii.lower name, s) else none := by
  have hd : (name ++ ':' :: s).dropWhile Ascii.isSchemeChar = ':' :: s := by
    rw [List.dropWhile_append_of_pos (List.all_eq_true.mp hn),
      List.dropWhile_cons_of_neg (by decide)]
  have ht : (name ++ ':' :: s).takeWhile Ascii.isSchemeChar = name := by
    rw [List.takeWhile_append_of_pos (List.all_eq_true.mp hn),
      List.takeWhile_cons_of_neg (by decide), List.append_nil]
  have hh : ((name ++ ':' :: s).head?.map Ascii.isAlpha).getD false =
      (name.head?.map Ascii.isAlpha).getD false := by
    cases name with
    | nil => rfl
    | cons c name => rfl
  rw [splitScheme?, hh, hd, ht]
  rfl

theorem splitScheme?_eq_none {name : List Char} (hn : ¬name.all Ascii.isSchemeChar)
    (hc : ':' ∉ name) (s : List Char) : splitScheme? (name ++ ':' :: s) = none := by
  cases hrest : name.dropWhile Ascii.isSchemeChar with
  | nil => exact absurd (List.all_eq_true.mpr (List.dropWhile_eq_nil_iff.mp hrest)) hn
  | cons c t =>
    have hne : c ≠ ':' := by
      rintro rfl
      exact hc ((List.dropWhile_sublist _).subset (hrest ▸ List.mem_cons_self))
    have hd : (name ++ ':' :: s).dropWhile Ascii.isSchemeChar = c :: (t ++ ':' :: s) := by
      rw [List.dropWhile_append, hrest]
      rfl
    rw [splitScheme?, hd]
    split
    · split
      next heq => exact absurd (List.cons.inj heq).1 hne
      · rfl
    · rfl

end Url.Parser

theorem Http.Authority.endsInPort {a : Authority} {q : Nat} (h : a.port? = some q) :
    ∃ pre digits, EndsInPort a.text pre digits q := by
  obtain ⟨digits, hd, hq⟩ := Option.bind_eq_some_iff.mp h
  rw [Authority.afterColon?] at hd
  split at hd
  next hc =>
    obtain ⟨pre, post, hcut, hpost⟩ := Cut.exists_last (List.contains_iff_mem.mp hc)
    rw [hcut, Cut.takeWhile_reverse _ hpost] at hd
    cases hd
    refine ⟨pre, digits, hcut, hq, ?_⟩
    have hclosed := Target.insideBrackets_eq_false a.valid
    have hn {c : Char} (h₁ : c ≠ ':' ∧ c ≠ '+') (h₂ : Ascii.isDigit c = false) :
        c ∉ ':' :: digits := by
      rw [List.mem_cons, not_or]
      exact ⟨h₁.1, Unsigned.not_mem_of_read? hq h₁.2 h₂⟩
    rwa [hcut, insideBrackets_append, insideBrackets_of_not_mem (hn (by decide) (by decide))
      (hn (by decide) (by decide))] at hclosed
  · cases hd

open Url.Parser in
/-- A target with a scheme is read as a URL with a server, which a file can be at too. -/
theorem Url.readServer_of_parse {scheme : Scheme} {a : Http.Authority} {p : PathQuery} {u : Url}
    (hs : scheme.IsRead) (h : parse (Target.absolute scheme a p).text = .ok u) :
    readServer (Ascii.lower scheme.text) (a.text ++ p.text) = .ok u ∨
      readFileServer (a.text ++ p.text) = .ok u := by
  have htext : (Target.absolute scheme a p).text =
      scheme.text ++ ':' :: '/' :: '/' :: (a.text ++ p.text) := by
    simp [Target.text]
  have hslashes : ('/' :: '/' :: (a.text ++ p.text)).takeWhile (isSlash true) = ['/', '/'] := by
    cases ht : a.text with
    | nil => exact absurd ht a.nonempty
    | cons c s =>
      have hc : isSlash true c = false := not_isSlash_of_inAuthority
        (List.all_eq_true.mp a.all_inAuthority c (ht ▸ List.mem_cons_self)) true
      rw [List.takeWhile_cons_of_pos rfl, List.takeWhile_cons_of_pos rfl, List.cons_append,
        List.takeWhile_cons_of_neg (by simp [hc])]
  have hcolon : ':' ∉ scheme.text := fun hc => Target.ne_colon_of_isSchemeChar
    (List.all_eq_true.mp (scheme.all_text hs) _ hc) rfl
  rw [parse, Parser.read,
    clean_of_visible fun c hc => (Target.isGraphic_of_mem_absolute hs a p hc).1, htext] at h
  -- There is no base, so that a text without a scheme is not read.
  have hall : scheme.text.all Ascii.isSchemeChar := by
    by_contra hn
    simp only [splitScheme?_eq_none hn hcolon] at h
    cases h
  simp only [splitScheme?_append hall] at h
  by_cases hh : (scheme.text.head?.map Ascii.isAlpha).getD false
  · rw [if_pos hh] at h
    dsimp only at h
    split at h
    · exact .inr h
    · rw [readWeb, hslashes] at h
      exact .inl h
    · exact .inl h
  · rw [if_neg hh] at h
    cases h

open Url.Parser in
theorem Url.port_of_parse {scheme : Scheme} {a : Http.Authority} {p : PathQuery} {q : Nat} {u : Url}
    (hs : scheme.IsRead) (hq : a.port? = some q)
    (h : parse (Target.absolute scheme a p).text = .ok u) :
    u.port = if defaultPort? u.scheme = some q then none else some q := by
  obtain ⟨pre, digits, hp⟩ := Http.Authority.endsInPort hq
  have htail : p.text = [] ∨ p.text.head? = some '/' := .inr p.head?_text
  obtain hr | hf := Url.readServer_of_parse hs h
  · obtain ⟨hu, hport⟩ := port_of_readServer a.all_inAuthority hp htail hr
    rwa [hu]
  · exact absurd hf (readFileServer_ne_ok a.all_inAuthority hp htail u)

end ScrapeCourier
