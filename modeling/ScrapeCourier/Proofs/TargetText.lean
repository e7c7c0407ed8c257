import Mathlib.Data.List.TakeWhile
import ScrapeCourier.Http.Target
import ScrapeCourier.Proofs.Checked
import ScrapeCourier.Proofs.Octet
import ScrapeCourier.Proofs.Utf8

namespace ScrapeCourier.Http

namespace Target

/-- Neither a blank nor a control character of ASCII. -/
def IsGraphic (c : Char) : Prop := 0x21 ≤ c.toNat ∧ c.toNat ≠ 0x7F

instance (c : Char) : Decidable (IsGraphic c) := inferInstanceAs (Decidable (_ ∧ _))

def inAuthority (c : Char) : Bool := isAuthorityChar c || ":[]@%".toList.contains c

theorem inAuthority_of_step {a b : AuthorityScan} {c : Char} (h : a.step c = .ok b) :
    inAuthority c := by
  by_cases hc : c ∈ ":[]@%".toList
  · rw [inAuthority, List.contains_iff_mem.mpr hc, Bool.or_true]
  · simp only [String.reduceToList, List.mem_cons, List.not_mem_nil, or_false, not_or] at hc
    obtain ⟨h₁, h₂, h₃, h₄, h₅⟩ := hc
    rw [AuthorityScan.step, if_neg h₁, if_neg h₂, if_neg h₃, if_neg h₄, if_neg h₅] at h
    cases ha : isAuthorityChar c with
    | true => rw [inAuthority, ha, Bool.true_or]
    | false => simp [ha] at h

theorem all_inAuthority_of_foldlM {s : List Char} {a b : AuthorityScan}
    (h : s.foldlM AuthorityScan.step a = .ok b) : s.all inAuthority := by
  induction s generalizing a with
  | nil => rfl
  | cons c s ih =>
    rw [List.foldlM_cons] at h
    obtain ⟨a', hc, hs⟩ := bind_eq_ok.mp h
    rw [List.all_cons, inAuthority_of_step hc, ih hs]
    rfl

theorem range_of_inAuthority {c : Char} (h : inAuthority c) : 0x21 ≤ c.toNat ∧ c.toNat < 0x7F := by
  simp only [inAuthority, isAuthorityChar, Bool.or_eq_true] at h
  obtain (h | h) | h := h
  · obtain ⟨h₁, h₂⟩ := Ascii.range_of_isAlphanum h
    exact ⟨Nat.le_trans (by decide) h₁, Nat.lt_of_le_of_lt h₂ (by decide)⟩
  · obtain ⟨h₁, h₂⟩ := Ascii.range_of_contains (m := 0x21) (n := 0x7E) h (by decide)
    exact ⟨h₁, Nat.lt_succ_of_le h₂⟩
  · obtain ⟨h₁, h₂⟩ := Ascii.range_of_contains (m := 0x21) (n := 0x7E) h (by decide)
    exact ⟨h₁, Nat.lt_succ_of_le h₂⟩

theorem not_endsAuthority_of_inAuthority {c : Char} (h : inAuthority c) :
    endsAuthority c = false := by
  by_contra hc
  simp only [endsAuthority, Bool.not_eq_false, Bool.or_eq_true, beq_iff_eq] at hc
  obtain (rfl | rfl) | rfl := hc
  · exact absurd h (by decide)
  · exact absurd h (by decide)
  · exact absurd h (by decide)

theorem ne_backslash_of_inAuthority {c : Char} (h : inAuthority c) : c ≠ '\\' := by
  rintro rfl
  revert h
  decide

end Target

namespace Authority

variable (a : Authority)

theorem read_text : read a.text = .ok a := by
  rw [read, dif_neg a.nonempty]
  split
  · rfl
  · next e he => simp [a.valid] at he

theorem text_of_read {s : List Char} (h : read s = .ok a) : a.text = s := by
  rw [read] at h
  split at h
  · cases h
  · split at h
    · cases h
      rfl
    · cases h

theorem all_inAuthority : a.text.all Target.inAuthority := by
  obtain ⟨b, hb, _⟩ := bind_eq_ok.mp a.valid
  exact Target.all_inAuthority_of_foldlM hb

theorem isGraphic_of_mem_text {c : Char} (h : c ∈ a.text) : Target.IsGraphic c := by
  obtain ⟨hle, hlt⟩ := Target.range_of_inAuthority (List.all_eq_true.mp a.all_inAuthority c h)
  exact ⟨hle, Nat.ne_of_lt hlt⟩

end Authority

namespace PathQuery

variable (p : PathQuery)

theorem ne_of_isPathChar {c : Char} (h : Target.isPathChar c) : c ≠ '?' ∧ c ≠ '#' := by
  constructor
  · rintro rfl
    revert h
    decide
  · rintro rfl
    revert h
    decide

theorem ne_of_isQueryChar {c : Char} (h : Target.isQueryChar c) : c ≠ '#' := by
  rintro rfl
  revert h
  decide

theorem read_text : read p.text = .ok p := by
  obtain ⟨path, query, rooted, path_valid, query_valid⟩ := p
  have hp : ∀ c ∈ path, (c ≠ '?' && c ≠ '#') = true := by
    intro c hc
    simpa using ne_of_isPathChar (List.all_eq_true.mp path_valid c hc)
  have hne : path.isEmpty = false := by
    cases path with
    | nil => cases rooted
    | cons c s => rfl
  have hok := And.intro rooted (And.intro path_valid query_valid)
  cases query with
  | none =>
    have ht := List.takeWhile_eq_self_iff.mpr hp
    have hd := List.dropWhile_eq_nil_iff.mpr hp
    simp only [text, read, List.append_nil, ht, hd, hne, Bool.false_eq_true, if_false]
    exact dif_pos hok
  | some q =>
    have ht : (path ++ '?' :: q).takeWhile (fun c => c ≠ '?' && c ≠ '#') = path := by
      rw [List.takeWhile_append_of_pos hp, List.takeWhile_cons_of_neg (by decide), List.append_nil]
    have hd : (path ++ '?' :: q).dropWhile (fun c => c ≠ '?' && c ≠ '#') = '?' :: q := by
      rw [List.dropWhile_append_of_pos hp, List.dropWhile_cons_of_neg (by decide)]
    have hq : q.takeWhile (· ≠ '#') = q := List.takeWhile_eq_self_iff.mpr fun c hc => by
      simpa using ne_of_isQueryChar (List.all_eq_true.mp query_valid c hc)
    simp only [text, read, ht, hd, hq, hne, Bool.false_eq_true, if_false]
    exact dif_pos hok

theorem head?_text : p.text.head? = some '/' := by
  obtain ⟨path, query, rooted, path_valid, query_valid⟩ := p
  cases path with
  | nil => cases rooted
  | cons c s => exact rooted

theorem isGraphic_of_mem_text {c : Char} (h : c ∈ p.text) : Target.IsGraphic c := by
  have hp (hc : Target.isPathChar c) : Target.IsGraphic c := by
    simp only [Target.isPathChar, Bool.or_eq_true, Bool.and_eq_true, beq_iff_eq,
      decide_eq_true_eq] at hc
    rw [Target.IsGraphic]
    omega
  have hq (hc : Target.isQueryChar c) : Target.IsGraphic c := by
    simp only [Target.isQueryChar, Bool.or_eq_true, Bool.and_eq_true, beq_iff_eq,
      decide_eq_true_eq] at hc
    rw [Target.IsGraphic]
    omega
  rw [text, List.mem_append] at h
  rcases h with h | h
  · exact hp (List.all_eq_true.mp p.path_valid c h)
  · have hv := p.query_valid
    cases hs : p.query with
    | none => simp [hs] at h
    | some q =>
      rw [hs] at h hv
      rcases List.mem_cons.mp h with rfl | h
      · decide
      · exact hq (List.all_eq_true.mp hv c h)

end PathQuery

namespace Scheme

/-- Neither of the two names that are read as such, and no longer than a name may be. -/
def IsRead : Scheme → Prop
  | .other name => name.all Target.isSchemeChar ∧ name.length ≤ 64 ∧
    ¬Ascii.sameWord name "http".toList ∧ ¬Ascii.sameWord name "https".toList
  | _ => True

theorem isGraphic_of_isSchemeChar {c : Char} (h : Target.isSchemeChar c) : Target.IsGraphic c := by
  simp only [Target.isSchemeChar, Bool.or_eq_true, beq_iff_eq] at h
  obtain h | rfl := h
  · obtain ⟨hle, hlt⟩ := Ascii.range_of_isSchemeChar h
    exact ⟨Nat.le_trans (by decide) hle, Nat.ne_of_lt (Nat.lt_of_le_of_lt hlt (by decide))⟩
  · decide

theorem all_text {s : Scheme} (h : s.IsRead) : s.text.all Target.isSchemeChar := by
  cases s with
  | http => decide
  | https => decide
  | other name => exact h.1

theorem isGraphic_of_mem_text {s : Scheme} (h : s.IsRead) {c : Char} (hc : c ∈ s.text) :
    Target.IsGraphic c :=
  isGraphic_of_isSchemeChar (List.all_eq_true.mp (s.all_text h) c hc)

end Scheme

namespace Target

theorem ne_colon_of_isSchemeChar {c : Char} (h : isSchemeChar c) : c ≠ ':' := by
  rintro rfl
  revert h
  decide

theorem toLower_ne_colon {c : Char} (h : isSchemeChar c) : Ascii.toLower c ≠ ':' := by
  rw [Ascii.toLower]
  split
  next hu => exact Ascii.ofNat_add_ne_colon hu
  · exact ne_colon_of_isSchemeChar h

variable {name : List Char}

theorem takeWhile_lower (h : name.all isSchemeChar) (s : List Char) :
    (Ascii.lower name ++ ':' :: s).takeWhile (· ≠ ':') = Ascii.lower name := by
  have hn : ∀ c ∈ Ascii.lower name, (c ≠ ':' : Bool) := by
    intro c hc
    obtain ⟨d, hd, rfl⟩ := List.mem_map.mp hc
    exact decide_eq_true (toLower_ne_colon (List.all_eq_true.mp h d hd))
  rw [List.takeWhile_append_of_pos hn, List.takeWhile_cons_of_neg (by decide), List.append_nil]

theorem lower_mark (name s : List Char) : Ascii.lower (name ++ "://".toList ++ s) =
    Ascii.lower name ++ ':' :: Ascii.lower ("//".toList ++ s) := by
  rw [List.append_assoc, Ascii.lower_append]
  rfl

/-- Whether a URL starts with a word and the mark behind it is decided by its name alone. -/
theorem sameWord_take (word : List Char) (hn : name.all isSchemeChar)
    (hw : word.all isSchemeChar) (s : List Char) :
    Ascii.sameWord ((name ++ "://".toList ++ s).take (word.length + 3)) (word ++ "://".toList) =
      Ascii.sameWord name word := by
  rw [Bool.eq_iff_iff]
  simp only [Ascii.sameWord, beq_iff_eq]
  constructor
  · intro h
    have e := calc Ascii.lower name ++ ':' :: Ascii.lower ("//".toList ++ s)
      _ = Ascii.lower (name ++ "://".toList ++ s) := (lower_mark name s).symm
      _ = Ascii.lower ((name ++ "://".toList ++ s).take (word.length + 3)) ++
          Ascii.lower ((name ++ "://".toList ++ s).drop (word.length + 3)) := by
        rw [← Ascii.lower_append, List.take_append_drop]
      _ = Ascii.lower (word ++ "://".toList ++ []) ++
          Ascii.lower ((name ++ "://".toList ++ s).drop (word.length + 3)) := by
        rw [h, List.append_nil]
      _ = Ascii.lower word ++ ':' :: (Ascii.lower ("//".toList ++ []) ++
          Ascii.lower ((name ++ "://".toList ++ s).drop (word.length + 3))) := by
        rw [lower_mark, List.append_assoc, List.cons_append]
    rw [← takeWhile_lower hn, e, takeWhile_lower hw]
  · intro h
    have hl : name.length = word.length := by
      simpa [Ascii.lower] using congrArg List.length h
    have ht : (name ++ "://".toList ++ s).take (word.length + 3) = name ++ "://".toList := by
      rw [← hl]
      exact List.take_left' (by simp)
    rw [ht, Ascii.lower_append, Ascii.lower_append, h]

theorem isRead_of_splitScheme {s rest : List Char} {scheme : Scheme}
    (h : splitScheme s = .ok (some (scheme, rest))) : scheme.IsRead := by
  simp only [splitScheme] at h
  split at h
  · cases h
    trivial
  next h₁ =>
  split at h
  · cases h
    trivial
  next h₂ =>
  split at h
  next h₃ =>
    split at h
    · cases h
    next h₄ =>
    cases h
    have hn : (s.takeWhile isSchemeChar).all isSchemeChar := List.all_takeWhile
    have hp := List.prefix_iff_eq_append.mp (List.takeWhile_prefix (l := s) isSchemeChar)
    rw [Bool.and_eq_true, decide_eq_true_eq, decide_eq_true_eq] at h₃
    rw [← List.take_append_drop 3 (s.drop _), h₃.1, ← List.append_assoc] at hp
    obtain ⟨t, ht⟩ : ∃ t, s.takeWhile isSchemeChar ++ "://".toList ++ t = s := ⟨_, hp⟩
    have h₁' := sameWord_take "http".toList hn (by decide) t
    have h₂' := sameWord_take "https".toList hn (by decide) t
    rw [ht] at h₁' h₂'
    refine ⟨hn, Nat.le_of_not_lt h₄, ?_, ?_⟩
    · rw [← h₁']
      exact h₁
    · rw [← h₂']
      exact h₂
  · cases h

theorem splitScheme_text {scheme : Scheme} (h : scheme.IsRead) {s : List Char} (hs : s ≠ []) :
    splitScheme (scheme.text ++ "://".toList ++ s) = .ok (some (scheme, s)) := by
  cases scheme with
  | http => rfl
  | https => rfl
  | other name =>
    obtain ⟨hn, hl, h₁, h₂⟩ := h
    have h₁' := sameWord_take "http".toList hn (by decide) s
    have h₂' := sameWord_take "https".toList hn (by decide) s
    have ht : (name ++ "://".toList ++ s).takeWhile isSchemeChar = name := by
      rw [List.append_assoc, List.takeWhile_append_of_pos (List.all_eq_true.mp hn)]
      exact List.append_nil name
    have hd : (name ++ "://".toList ++ s).drop name.length = "://".toList ++ s := by
      rw [List.append_assoc, List.drop_left]
    have hlen : 3 < (name ++ "://".toList ++ s).length := by
      have := List.length_pos_iff.mpr hs
      simp only [List.length_append, String.reduceToList, List.length_cons, List.length_nil]
      omega
    have hmark : (("://".toList ++ s).take 3 = "://".toList && decide
        (3 < (name ++ "://".toList ++ s).length)) = true := by
      rw [decide_eq_true hlen]
      rfl
    have hrest : (name ++ "://".toList ++ s).drop (name.length + 3) = s := by
      rw [← List.drop_drop, hd]
      rfl
    change splitScheme (name ++ "://".toList ++ s) = _
    simp only [splitScheme]
    rw [if_neg (h₁' ▸ h₁), if_neg (h₂' ▸ h₂), ht, hd, if_pos hmark, if_neg (Nat.not_lt_of_le hl),
      hrest]

theorem readAbsolute_eq_ok {scheme : Scheme} {s : List Char} {t : Target} :
    readAbsolute scheme s = .ok t ↔ ∃ a p, Authority.read (s.takeWhile (!endsAuthority ·)) = .ok a ∧
      PathQuery.read (s.dropWhile (!endsAuthority ·)) = .ok p ∧ t = .absolute scheme a p := by
  constructor
  · intro h
    simp only [readAbsolute] at h
    split at h
    · cases h
    obtain ⟨-, -, h⟩ := bind_eq_ok.mp h
    split at h
    · cases h
    obtain ⟨a, ha, h⟩ := bind_eq_ok.mp h
    obtain ⟨p, hp, h⟩ := bind_eq_ok.mp h
    cases h
    exact ⟨a, p, ha, hp, rfl⟩
  · rintro ⟨a, p, ha, hp, rfl⟩
    have htext := a.text_of_read ha
    have hne : (s.takeWhile (!endsAuthority ·)).isEmpty = false :=
      List.isEmpty_eq_false_iff.mpr (htext ▸ a.nonempty)
    have hs : s.isEmpty = false := by
      cases s with
      | nil => cases hne
      | cons c s => rfl
    have hvalid : checkAuthority (s.takeWhile (!endsAuthority ·)) = .ok () := htext ▸ a.valid
    simp only [readAbsolute, hs, hne, hvalid, ha, hp, Bool.false_eq_true, if_false]
    rfl

theorem readAbsolute_text (scheme : Scheme) (a : Authority) (p : PathQuery) :
    readAbsolute scheme (a.text ++ p.text) = .ok (.absolute scheme a p) := by
  have ha : ∀ c ∈ a.text, (!endsAuthority c) = true := by
    intro c hc
    rw [not_endsAuthority_of_inAuthority (List.all_eq_true.mp a.all_inAuthority c hc)]
    rfl
  obtain ⟨s, hp⟩ := List.head?_eq_some_iff.mp p.head?_text
  have ht : (a.text ++ p.text).takeWhile (!endsAuthority ·) = a.text := by
    rw [List.takeWhile_append_of_pos ha, hp, List.takeWhile_cons_of_neg (by decide),
      List.append_nil]
  have hd : (a.text ++ p.text).dropWhile (!endsAuthority ·) = p.text := by
    rw [List.dropWhile_append_of_pos ha, hp, List.dropWhile_cons_of_neg (by decide)]
  exact readAbsolute_eq_ok.mpr ⟨a, p, ht.symm ▸ a.read_text, hd.symm ▸ p.read_text, rfl⟩

/-- A target that is read from some text. -/
def IsRead (t : Target) : Prop := ∃ s, parse s = .ok t

theorem server_of_readServer {s : List Char} {t : Target} (h : readServer s = .ok t) :
    ∃ a, t = .server a ∧ s = a.text := by
  simp only [readServer] at h
  obtain ⟨-, -, h⟩ := bind_eq_ok.mp h
  split at h
  · cases h
  next hl =>
  obtain ⟨a, ha, h⟩ := bind_eq_ok.mp h
  cases h
  have hs := (List.takeWhile_prefix (l := s) (!endsAuthority ·)).eq_of_length (not_not.mp hl)
  exact ⟨a, rfl, (a.text_of_read ha ▸ hs).symm⟩

theorem parse_cases {s : List Char} {t : Target} (h : parse s = .ok t) :
    (s.head? = some '/' ∧ ∃ p, t = .origin p) ∨ t = .asterisk ∨ (∃ a, t = .server a ∧ s = a.text) ∨
      ∃ scheme a p, t = .absolute scheme a p ∧ scheme.IsRead := by
  simp only [parse] at h
  split at h
  · cases h
  split at h
  · cases h
  split at h
  · cases h
    exact .inr (.inl rfl)
  split at h
  next hs =>
    obtain ⟨p, -, hp⟩ := bind_eq_ok.mp h
    cases hp
    exact .inl ⟨hs, p, rfl⟩
  obtain ⟨o, ho, ht⟩ := bind_eq_ok.mp h
  cases o with
  | none => exact .inr (.inr (.inl (server_of_readServer ht)))
  | some q =>
    obtain ⟨a, p, -, -, rfl⟩ := readAbsolute_eq_ok.mp ht
    exact .inr (.inr (.inr ⟨q.1, a, p, rfl, isRead_of_splitScheme ho⟩))

theorem isRead_scheme {scheme : Scheme} {a : Authority} {p : PathQuery}
    (h : (absolute scheme a p).IsRead) : scheme.IsRead := by
  obtain ⟨s, hs⟩ := h
  rcases parse_cases hs with ⟨-, _, h⟩ | h | ⟨_, h, -⟩ | ⟨_, _, _, h, hr⟩
  · cases h
  · cases h
  · cases h
  · cases h
    exact hr

theorem parse_text {t : Target} (h : t.IsRead) (hp : t.text.head? ≠ some '/')
    (hl : Utf8.size t.text ≤ 65534) : parse t.text = .ok t := by
  obtain ⟨s, hs⟩ := h
  rcases parse_cases hs with ⟨-, p, rfl⟩ | rfl | ⟨a, rfl, rfl⟩ | ⟨scheme, a, p, rfl, hr⟩
  · exact absurd p.head?_text hp
  · rfl
  · exact hs
  · have hne : a.text ++ p.text ≠ [] := List.append_ne_nil_of_left_ne_nil a.nonempty _
    have hlen : 1 < (absolute scheme a p).text.length := by
      simp only [text, List.length_append, String.reduceToList, List.length_cons]
      omega
    have hn : (absolute scheme a p).text ≠ [] := by
      intro e
      simp [e] at hlen
    have hn' : (absolute scheme a p).text ≠ ['*'] := by
      intro e
      simp [e] at hlen
    have ht := splitScheme_text hr hne
    rw [← List.append_assoc] at ht
    simp only [parse]
    rw [if_neg (Nat.not_lt_of_le hl), if_neg hn, if_neg hn', if_neg hp]
    change splitScheme (scheme.text ++ "://".toList ++ a.text ++ p.text) >>= _ = _
    rw [ht]
    exact readAbsolute_text scheme a p

theorem text_ne_nil (t : Target) : t.text ≠ [] := by
  have hp (p : PathQuery) : p.text ≠ [] := by
    intro e
    have := p.head?_text
    rw [e] at this
    cases this
  cases t with
  | origin p => exact hp p
  | asterisk => exact List.cons_ne_nil _ _
  | server a => exact a.nonempty
  | absolute scheme a p => exact List.append_ne_nil_of_right_ne_nil _ (hp p)

variable {c : Char}

theorem isGraphic_of_mem_absolute {scheme : Scheme} (h : scheme.IsRead) (a : Authority)
    (p : PathQuery) (hc : c ∈ (absolute scheme a p).text) : IsGraphic c := by
  simp only [text, List.mem_append] at hc
  rcases hc with ((hc | hc) | hc) | hc
  · exact scheme.isGraphic_of_mem_text h hc
  · have hm : ∀ c ∈ "://".toList, IsGraphic c := by decide
    exact hm c hc
  · exact a.isGraphic_of_mem_text hc
  · exact p.isGraphic_of_mem_text hc

theorem isGraphic_of_mem_text {t : Target} (h : t.IsRead) (hc : c ∈ t.text) : IsGraphic c := by
  obtain ⟨s, hs⟩ := h
  rcases parse_cases hs with ⟨-, p, rfl⟩ | rfl | ⟨a, rfl, rfl⟩ | ⟨scheme, a, p, rfl, hr⟩
  · exact p.isGraphic_of_mem_text hc
  · rw [List.mem_singleton.mp hc]
    decide
  · exact a.isGraphic_of_mem_text hc
  · exact isGraphic_of_mem_absolute hr a p hc

end Target

end ScrapeCourier.Http
