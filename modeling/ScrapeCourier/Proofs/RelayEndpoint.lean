import ScrapeCourier.Agent.Session
import ScrapeCourier.Proofs.BelowBase

namespace ScrapeCourier

namespace Http

namespace PathQuery

def beforeMark (c : Char) : Bool := c ≠ '?' && c ≠ '#'

def queryOf : List Char → Option (List Char)
  | '?' :: q => some (q.takeWhile (· ≠ '#'))
  | _ => none

def parts (s : List Char) : List Char × Option (List Char) :=
  (if (s.takeWhile beforeMark).isEmpty then ['/'] else s.takeWhile beforeMark,
    queryOf (s.dropWhile beforeMark))

def areValid (p : List Char × Option (List Char)) : Bool :=
  p.1.head? = some '/' && p.1.all Target.isPathChar && p.2.all (·.all Target.isQueryChar)

theorem areValid_iff (p : List Char × Option (List Char)) : areValid p = true ↔
    p.1.head? = some '/' ∧ p.1.all Target.isPathChar ∧ p.2.all (·.all Target.isQueryChar) := by
  rw [areValid, Bool.and_eq_true, Bool.and_eq_true, decide_eq_true_eq, and_assoc]

theorem isOk_read (s : List Char) : (read s).isOk = areValid (parts s) := by
  by_cases h : (parts s).1.head? = some '/' ∧ (parts s).1.all Target.isPathChar ∧
      (parts s).2.all (·.all Target.isQueryChar)
  · have hr : read s = .ok ⟨_, _, h.1, h.2.1, h.2.2⟩ := dif_pos h
    rw [hr, (areValid_iff _).mpr h]
    rfl
  · have hr : read s = .error .badCharacter := dif_neg h
    rw [hr, Bool.eq_false_iff.mpr (mt (areValid_iff _).mp h)]
    rfl

theorem parts_of_all {s : List Char} (hs : s ≠ []) (h : ∀ c ∈ s, beforeMark c) :
    parts s = (s, none) := by
  rw [parts, List.takeWhile_eq_self_iff.mpr h, List.dropWhile_eq_nil_iff.mpr h,
    List.isEmpty_eq_false_iff.mpr hs]
  rfl

def IsPlain (t : List Char) : Prop := t.all Target.isPathChar ∧ t.all Target.isQueryChar

variable {s t : List Char} (ht : IsPlain t)
include ht

theorem all_takeWhile_append :
    ((s ++ t).takeWhile (· ≠ '#')).all Target.isQueryChar =
      (s.takeWhile (· ≠ '#')).all Target.isQueryChar := by
  rw [List.takeWhile_append]
  split
  next hl =>
    have hw : (t.takeWhile (· ≠ '#')).all Target.isQueryChar :=
      List.all_eq_true.mpr fun c hc =>
        List.all_eq_true.mp ht.2 c (List.takeWhile_subset _ hc)
    rw [(List.takeWhile_prefix _).eq_of_length hl, List.all_append, hw, Bool.and_true]
  · rfl

theorem isOk_read_append (hs : s ≠ []) : (read (s ++ t)).isOk = (read s).isOk := by
  rw [isOk_read, isOk_read]
  -- What is put behind falls to the part that the last mark opens.
  by_cases hall : ∀ c ∈ s, beforeMark c
  · have htail : ∀ c ∈ t, beforeMark c := by
      intro c hc
      have hne := ne_of_isPathChar (List.all_eq_true.mp ht.1 c hc)
      rw [beforeMark, decide_eq_true hne.1, decide_eq_true hne.2]
      rfl
    have hboth : ∀ c ∈ s ++ t, beforeMark c := by
      intro c hc
      exact (List.mem_append.mp hc).elim (hall c) (htail c)
    rw [parts_of_all (List.append_ne_nil_of_left_ne_nil hs t) hboth, parts_of_all hs hall]
    obtain ⟨c, r, rfl⟩ := List.exists_cons_of_ne_nil hs
    rw [areValid, areValid, List.all_append, ht.1, Bool.and_true]
    rfl
  · have hrest : s.dropWhile beforeMark ≠ [] := mt List.dropWhile_eq_nil_iff.mp hall
    have hquery : (queryOf (s.dropWhile beforeMark ++ t)).all (·.all Target.isQueryChar) =
        (queryOf (s.dropWhile beforeMark)).all (·.all Target.isQueryChar) := by
      obtain ⟨c, r, he⟩ := List.exists_cons_of_ne_nil hrest
      rw [he, List.cons_append]
      by_cases hc : c = '?'
      · subst hc
        exact all_takeWhile_append ht
      · rw [queryOf.eq_2 (c :: r), queryOf.eq_2]
        · intro q e
          exact hc (List.cons.inj e).1
        · intro q e
          exact hc (List.cons.inj e).1
    rw [areValid, areValid, parts, parts, Cut.takeWhile_append_of_dropWhile hrest,
      Cut.dropWhile_append_of_dropWhile hrest, hquery]

end PathQuery

namespace Target

variable {s t : List Char} (ht : PathQuery.IsPlain t)
include ht

theorem isOk_readAbsolute_append (scheme : Scheme) (hs : s.dropWhile (!endsAuthority ·) ≠ []) :
    (readAbsolute scheme (s ++ t)).isOk = (readAbsolute scheme s).isOk := by
  have hne : s ≠ [] := by
    rintro rfl
    exact hs rfl
  have hp := PathQuery.isOk_read_append ht hs
  simp only [readAbsolute, Cut.takeWhile_append_of_dropWhile hs,
    Cut.dropWhile_append_of_dropWhile hs, Bool.false_eq_true, if_false,
    List.isEmpty_eq_false_iff.mpr (List.append_ne_nil_of_left_ne_nil hne t),
    List.isEmpty_eq_false_iff.mpr hne]
  apply isOk_bind_congr
  intro _
  split
  · rfl
  · apply isOk_bind_congr
    intro a
    rw [isOk_bind_pure, isOk_bind_pure, hp]

theorem isOk_parse_append {scheme : Scheme} (h : scheme = .http ∨ scheme = .https)
    (hs : s.dropWhile (!endsAuthority ·) ≠ []) :
    (parse (scheme.text ++ "://".toList ++ s ++ t)).isOk =
      (decide (Utf8.size (scheme.text ++ "://".toList ++ s ++ t) ≤ 65534) &&
        (readAbsolute scheme s).isOk) := by
  have hread : scheme.IsRead := by
    obtain rfl | rfl := h
    · trivial
    · trivial
  have hne : s ++ t ≠ [] := by
    rintro e
    rw [(List.append_eq_nil_iff.mp e).1] at hs
    exact hs rfl
  -- The first letter tells it from the asterisk and from a path.
  have hhead : (scheme.text ++ "://".toList ++ s ++ t).head? = some 'h' := by
    obtain rfl | rfl := h
    · rfl
    · rfl
  have hn : scheme.text ++ "://".toList ++ s ++ t ≠ [] := by
    intro e
    rw [e] at hhead
    cases hhead
  have hstar : scheme.text ++ "://".toList ++ s ++ t ≠ ['*'] := by
    intro e
    rw [e] at hhead
    cases hhead
  have hslash : (scheme.text ++ "://".toList ++ s ++ t).head? ≠ some '/' := by
    rw [hhead]
    decide
  have hsplit := splitScheme_text hread hne
  rw [← List.append_assoc] at hsplit
  by_cases hl : Utf8.size (scheme.text ++ "://".toList ++ s ++ t) ≤ 65534
  · simp only [parse]
    rw [if_neg (Nat.not_lt_of_le hl), if_neg hn, if_neg hstar, if_neg hslash, decide_eq_true hl,
      Bool.true_and, ← isOk_readAbsolute_append ht scheme hs]
    change (splitScheme (scheme.text ++ "://".toList ++ s ++ t) >>= _).isOk = _
    rw [hsplit]
    rfl
  · simp only [parse]
    rw [if_pos (Nat.lt_of_not_le hl), decide_eq_false hl, Bool.false_and]
    rfl

end Target

end Http

namespace Url

def IsLeg (leg : List Char) : Prop := leg = "poll".toList ∨ leg = "push".toList

theorem IsLeg.isName {leg : List Char} (hl : IsLeg leg) : IsName leg := by
  obtain rfl | rfl := hl
  · exact ⟨by decide, by decide⟩
  · exact ⟨by decide, by decide⟩

/-- The text of a URL up to its last segment, and that segment. -/
theorem exists_chars_below (u : Url) {scheme : List Char} (hs : u.scheme = scheme)
    (hh : u.hasNamedHost) :
    ∃ s : List Char, s.dropWhile (!Http.Target.endsAuthority ·) ≠ [] ∧
      ∀ leg, (u.below leg).chars = scheme ++ "://".toList ++ s ++ leg := by
  obtain ⟨host, hhost⟩ : ∃ host, u.host = some host := by
    cases hu : u.host with
    | none => simp [hasNamedHost, namedHost?, hu] at hh
    | some host => exact ⟨host, rfl⟩
  refine ⟨u.userinfoText ++ host.text ++ u.portText ++
    ((Parser.pathSegments u).dropLast.flatMap ('/' :: ·) ++ ['/']), ?_, ?_⟩
  · intro he
    have hm : '/' ∈ u.userinfoText ++ host.text ++ u.portText ++
        ((Parser.pathSegments u).dropLast.flatMap ('/' :: ·) ++ ['/']) := by simp
    exact absurd (List.dropWhile_eq_nil_iff.mp he '/' hm) (by decide)
  · intro leg
    have ha : (u.below leg).authorityText =
        "//".toList ++ u.userinfoText ++ host.text ++ u.portText := by
      have hb : (u.below leg).host = some host := hhost
      simp only [authorityText, hb]
      rfl
    rw [chars, ha]
    simp [below, Path.text, queryText, fragmentText, hs]

end Url

theorem Url.IsLeg.isPlain {leg : List Char} (hl : Url.IsLeg leg) : Http.PathQuery.IsPlain leg := by
  obtain rfl | rfl := hl
  · exact ⟨by decide, by decide⟩
  · exact ⟨by decide, by decide⟩

theorem Url.IsLeg.size {leg : List Char} (hl : Url.IsLeg leg) : (Utf8.encode leg).length = 4 := by
  obtain rfl | rfl := hl
  · rfl
  · rfl

namespace Call

open Http

theorem scheme_of_isPossible {u : Url} (h : isPossible u) :
    ∃ scheme : Scheme, (scheme = .http ∨ scheme = .https) ∧ u.scheme = scheme.text := by
  simp only [isPossible, Bool.and_eq_true, Bool.or_eq_true, decide_eq_true_eq] at h
  obtain ⟨⟨hs | hs, -⟩, -⟩ := h
  · exact ⟨.http, .inl rfl, hs⟩
  · exact ⟨.https, .inr rfl, hs⟩

theorem kind_of_isPossible {u : Url} (h : isPossible u) : u.kind ≠ .file := by
  obtain ⟨scheme, hscheme, hs⟩ := scheme_of_isPossible h
  rw [Url.kind, hs]
  obtain rfl | rfl := hscheme
  · decide
  · decide

theorem isPossible_below {u : Url} {leg leg' : List Char} (hl : Url.IsLeg leg)
    (hl' : Url.IsLeg leg') (h : isPossible (u.below leg)) : isPossible (u.below leg') := by
  obtain ⟨scheme, hscheme, hs⟩ := scheme_of_isPossible h
  simp only [isPossible, Bool.and_eq_true] at h ⊢
  obtain ⟨⟨hweb, hnamed⟩, hparse⟩ := h
  obtain ⟨s, hd, hchars⟩ := Url.exists_chars_below u hs hnamed
  refine ⟨⟨hweb, hnamed⟩, ?_⟩
  rw [hchars, Target.isOk_parse_append hl.isPlain hscheme hd] at hparse
  rw [hchars, Target.isOk_parse_append hl'.isPlain hscheme hd]
  have hsize : Utf8.size (scheme.text ++ "://".toList ++ s ++ leg') =
      Utf8.size (scheme.text ++ "://".toList ++ s ++ leg) := by
    simp only [Utf8.size, Utf8.encode_append, List.length_append, hl.size, hl'.size]
  rw [hsize]
  exact hparse

/-- The URL to which a request is sent. -/
def contacted (u : Url) : Url := if (credentials? u).isSome then u.withoutUserinfo else u

theorem url_signed (c : Call) : c.signed.url = contacted c.url := by
  rw [signed, contacted]
  cases credentials? c.url with
  | none => rfl
  | some q => rfl

theorem contacted_below (u : Url) (leg : List Char) :
    contacted (u.below leg) = (contacted u).below leg := by
  have hc : credentials? (u.below leg) = credentials? u := rfl
  rw [contacted, contacted, hc]
  split
  · rfl
  · rfl

theorem kind_contacted (u : Url) : (contacted u).kind = u.kind := by
  rw [contacted]
  split
  · rfl
  · rfl

theorem body_signed (c : Call) : c.signed.body = c.body := by
  rw [signed]
  cases credentials? c.url with
  | none => rfl
  | some q => rfl

theorem body_accepting (c : Call) : c.accepting.body = c.body := by
  rw [accepting]
  split
  · rfl
  · rfl

end Call

namespace Exchange

theorem start_eq (c : Call) : start c =
    if Call.isPossible (Call.contacted c.url) then
      .waiting ⟨Call.contacted c.url, c.signed.accepting, 0⟩
    else .ended (.error ⟨.other, .unsupported, (Call.contacted c.url).chars⟩) := by
  rw [start, ← Call.url_signed]

variable {c : Call} {x : Exchange}

theorem of_start (h : start c = .waiting x) :
    Call.isPossible (Call.contacted c.url) ∧ x.followed = 0 ∧ x.call.body = c.body := by
  rw [start_eq] at h
  split at h
  next hp =>
    cases h
    refine ⟨hp, rfl, ?_⟩
    rw [Call.body_accepting, Call.body_signed]
  · cases h

end Exchange

/-- Whenever the relay can be asked for a job, it can be handed a result. -/
theorem Agent.exists_push {c : Config} {files : Files} {a : Agent} {x : Exchange}
    (ha : Agent.ofConfig c files = .ok a) (hx : Session.startPoll a = .waiting x) (m : Octets) :
    ∃ y, Exchange.start (Push.call a.pushUrl m) = .waiting y := by
  have hpoll := (Exchange.of_start hx).1
  obtain ⟨poll, hp, ha⟩ := bind_eq_ok.mp ha
  obtain ⟨push, hq, ha⟩ := bind_eq_ok.mp ha
  cases ha
  have hp := mapError_eq_ok.mp (mapError_eq_ok.mp hp)
  have hq := mapError_eq_ok.mp (mapError_eq_ok.mp hq)
  have hjoin := Url.of_join (Url.IsLeg.isName (.inl rfl)) hp
  have hjoin' := Url.of_join (Url.IsLeg.isName (.inr rfl)) hq
  have hk : c.relay.kind ≠ .file := by
    rw [← hjoin.1, ← Call.kind_contacted]
    exact Call.kind_of_isPossible hpoll
  obtain rfl := hjoin.2 hk
  obtain rfl := hjoin'.2 hk
  have hpush : Call.isPossible (Call.contacted (c.relay.below "push".toList)) := by
    rw [Call.contacted_below]
    apply Call.isPossible_below (.inl rfl) (.inr rfl)
    rw [← Call.contacted_below]
    exact hpoll
  rw [Exchange.start_eq]
  exact ⟨_, if_pos hpush⟩

end ScrapeCourier
