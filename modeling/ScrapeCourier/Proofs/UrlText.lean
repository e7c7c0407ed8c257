import ScrapeCourier.Proofs.FileText
import ScrapeCourier.Proofs.PreparedCall

namespace ScrapeCourier

namespace Ascii

def smallLetters : List Char := "abcdefghijklmnopqrstuvwxyz".toList

theorem toLower_cases (c : Char) : toLower c = c ∨ toLower c ∈ smallLetters := by
  rw [toLower]
  split
  next h =>
    have key : ∀ d : Fin 26, Char.ofNat (65 + d + 32) ∈ smallLetters := by decide
    simp only [isUpper, Bool.and_eq_true, decide_eq_true_eq] at h
    have h₁ : 65 ≤ c.toNat := h.1
    have h₂ : c.toNat ≤ 90 := h.2
    have hc := key ⟨c.toNat - 65, by omega⟩
    rw [Nat.add_sub_cancel' h₁] at hc
    exact .inr hc
  · exact .inl rfl

theorem toLower_toLower (c : Char) : toLower (toLower c) = toLower c := by
  have key : ∀ c ∈ smallLetters, toLower c = c := by decide
  obtain h | h := toLower_cases c
  · rw [h, h]
  · exact key _ h

end Ascii

namespace Url

namespace Parser

structure IsScheme (s : List Char) : Prop where
  head : (s.head?.map Ascii.isAlpha).getD false
  chars : s.all Ascii.isSchemeChar
  lower : Ascii.lower s = s

theorem IsScheme.exists_cons {s : List Char} (hs : IsScheme s) :
    ∃ c t, s = c :: t ∧ Ascii.isAlpha c := by
  cases s with
  | nil => cases hs.head
  | cons c t => exact ⟨c, t, rfl, hs.head⟩

theorem of_splitScheme? {s scheme rest : List Char} (h : splitScheme? s = some (scheme, rest)) :
    IsScheme scheme ∧ ∃ pre, s = pre ++ ':' :: rest := by
  have key : ∀ c ∈ Ascii.smallLetters, Ascii.isAlpha c ∧ Ascii.isSchemeChar c := by decide
  rw [splitScheme?] at h
  split at h
  next hhead =>
    split at h
    next hrest =>
      cases h
      have hs := List.takeWhile_append_dropWhile (p := Ascii.isSchemeChar) (l := s)
      rw [hrest] at hs
      refine ⟨⟨?_, ?_, ?_⟩, _, hs.symm⟩
      · obtain ⟨c, t, rfl⟩ : ∃ c t, s = c :: t := by
          cases s with
          | nil => cases hhead
          | cons c t => exact ⟨c, t, rfl⟩
        have hc : Ascii.isAlpha c := hhead
        have hscheme : Ascii.isSchemeChar c := by
          rw [Ascii.isSchemeChar, Ascii.isAlphanum, hc]
          rfl
        rw [List.takeWhile_cons_of_pos hscheme]
        change Ascii.isAlpha (Ascii.toLower c)
        obtain hl | hl := Ascii.toLower_cases c
        · rwa [hl]
        · exact (key _ hl).1
      · rw [Ascii.lower, List.all_map, List.all_eq_true]
        intro c hc
        obtain hl | hl := Ascii.toLower_cases c
        · rw [Function.comp_apply, hl]
          exact List.mem_takeWhile_imp hc
        · exact (key _ hl).2
      · rw [Ascii.lower, Ascii.lower, List.map_map]
        exact List.map_congr_left fun c _ => Ascii.toLower_toLower c
    · cases h
  · cases h

theorem parse_of_isScheme {scheme t : List Char} (hs : IsScheme scheme)
    (hclean : clean (scheme ++ ':' :: t) = scheme ++ ':' :: t) :
    parse (scheme ++ ':' :: t) = match kindOf scheme with
      | .file => readFile none t
      | .web => readWeb none scheme t
      | .other => readOther scheme t := by
  simp only [parse, read, hclean, splitScheme?_append hs.chars, if_pos hs.head, hs.lower]
  rfl

def IsBare (u : Url) : Prop :=
  u = { scheme := u.scheme, path := u.path, query := u.query, fragment := u.fragment }

inductive Form (u : Url) : Prop
  | server {h : Host} {ss : List (List Char)} (hk : u.kind ≠ .file) (hh : u.host = some h)
      (hp : u.path = .segments ss) (hu : IsServer u h) (hne : u.kind.isSpecial → ss ≠ [])
      (hss : ∀ w ∈ ss, IsSegment u.kind.isSpecial w)
  | rooted {ss : List (List Char)} (hk : u.kind = .other) (hu : IsBare u)
      (hp : u.path = .segments ss) (hne : ss ≠ []) (hss : ∀ w ∈ ss, IsSegment false w)
  | whole {s : List Char} (hk : u.kind = .other) (hu : IsBare u) (hp : u.path = .whole s)
      (hs : ∀ c ∈ s, 0x20 ≤ c.toNat ∧ c.toNat < 0x7F ∧ endsPath c = false)
      (hslash : s.head? ≠ some '/')
      (hlast : u.query = none → u.fragment = none → ∀ c, s.getLast? = some c → 0x20 < c.toNat)
  | file {h : Host} {ss : List (List Char)} (hu : IsFile u h ss)

/-- What the reader guarantees. -/
structure IsParsed (u : Url) : Prop where
  scheme : IsScheme u.scheme
  tail : IsTailed u
  form : Form u

variable {u : Url} {scheme s : List Char}

theorem form_of_readServer (hk : kindOf scheme ≠ .file) (h : readServer scheme s = .ok u) :
    u.scheme = scheme ∧ IsTailed u ∧ Form u := by
  simp only [readServer] at h
  obtain ⟨⟨a, rest⟩, ha, h⟩ := bind_eq_ok.mp h
  have hpath := of_readPathStart (Prod.eta (readPathStart (kindOf scheme).isSpecial rest)).symm
  cases h
  exact ⟨rfl, isTailed_withTail _ _,
    .server hk rfl rfl (isServer_of_readAuthority ha rfl rfl rfl rfl) hpath.1 hpath.2⟩

theorem eq_nil_of_readTail {special : Bool} {t : List Char} (ht : IsTail t)
    (h : readTail special t = (none, none)) : t = [] := by
  cases t with
  | nil => rfl
  | cons c t =>
    have hc := ht c rfl
    rw [endsPath, Bool.or_eq_true, beq_iff_eq, beq_iff_eq] at hc
    obtain rfl | rfl := hc
    · cases h
    · cases h

theorem isTail_dropWhile (s : List Char) : IsTail (s.dropWhile (!endsPath ·)) := by
  intro c hc
  have h := List.head?_dropWhile_not (!endsPath ·) s
  rw [hc] at h
  simpa using h

theorem form_of_readOther (hk : kindOf scheme = .other)
    (hs : ∀ c, s.getLast? = some c → 0x20 < c.toNat) (h : readOther scheme s = .ok u) :
    u.scheme = scheme ∧ IsTailed u ∧ Form u := by
  unfold readOther at h
  split at h
  · exact form_of_readServer (by rw [hk]; exact nofun) h
  next t _ =>
    cases h
    refine ⟨rfl, isTailed_withTail _ _,
      .rooted hk rfl rfl (addSegments_ne_nil (segmentsOf_ne_nil _ _)) ?_⟩
    exact isSegment_of_mem_addSegments nofun (isSegmentChar_segmentsOf _)
  next h₁ h₂ =>
    cases h
    refine ⟨rfl, isTailed_withTail _ _, .whole hk rfl rfl ?_ ?_ ?_⟩
    · apply Percent.forall_mem_encode
      · decide
      · intro c hc hlt he
        have hend := List.mem_takeWhile_imp hc
        rw [Percent.isControl, decide_eq_false_iff_not, Nat.not_lt] at he
        exact ⟨he, hlt, by simpa using hend⟩
    · have hfirst : ∀ c, (s.takeWhile (!endsPath ·)).head? = some c → c ≠ '/' := by
        intro c hc he
        obtain ⟨t, ht⟩ := List.head?_eq_some_iff.mp hc
        have hprefix := List.takeWhile_prefix (l := s) (!endsPath ·)
        rw [ht, he] at hprefix
        obtain ⟨r, hr⟩ := hprefix
        exact h₂ _ hr.symm
      exact fun hc => Percent.head?_encode (by decide) hfirst '/' hc rfl
    · intro hq hf
      have hrest := eq_nil_of_readTail (isTail_dropWhile s) (Prod.ext hq hf)
      have htext := List.takeWhile_append_dropWhile (p := (!endsPath ·)) (l := s)
      rw [hrest, List.append_nil] at htext
      apply Percent.getLast?_encode
      · decide
      · rwa [htext]

theorem lt_of_getLast?_clean {c : Char} (h : (clean s).getLast? = some c) : 0x20 < c.toNat := by
  rw [clean, List.filter_reverse, List.getLast?_reverse] at h
  have hfirst := List.head?_dropWhile_not isTrimmed (s.dropWhile isTrimmed).reverse
  generalize (s.dropWhile isTrimmed).reverse.dropWhile isTrimmed = t at h hfirst
  cases t with
  | nil => cases h
  | cons d t =>
    have hd : 0x20 < d.toNat := by
      rw [List.head?_cons] at hfirst
      simpa [isTrimmed] using hfirst
    rw [List.filter_cons_of_pos (p := (!isDropped ·)) (not_isDropped (Nat.le_of_lt hd))] at h
    cases h
    exact hd

theorem isParsed_of_parse (h : parse s = .ok u) : IsParsed u := by
  simp only [parse, read] at h
  split at h
  next scheme rest hsplit =>
    obtain ⟨hscheme, pre, hpre⟩ := of_splitScheme? hsplit
    have hlast : ∀ c, rest.getLast? = some c → 0x20 < c.toNat := by
      intro c hc
      apply lt_of_getLast?_clean (s := s)
      have hne : (':' :: rest).getLast? = some c := by
        rw [List.getLast?_cons, hc]
        rfl
      rw [hpre, List.getLast?_append, hne, Option.some_or]
    have hform : u.scheme = scheme ∧ IsTailed u ∧ Form u := by
      split at h
      next hk =>
        obtain ⟨host, ss, hu⟩ := isFile_of_readFile h
        refine ⟨?_, hu.tail, .file hu⟩
        rw [hu.eq]
        exact (kindOf_eq_file hk).symm
      next hk => exact form_of_readServer (by rw [hk]; decide) h
      next hk => exact form_of_readOther hk hlast h
    exact ⟨hform.1 ▸ hscheme, hform.2.1, hform.2.2⟩
  · cases h

theorem chars_eq (u : Url) : u.chars =
    u.scheme ++ ':' :: (u.authorityText ++ (u.path.text ++ (u.queryText ++ u.fragmentText))) := by
  simp [chars]

theorem lt_of_isAuthorityChar {c : Char} (h : isAuthorityChar c) : 0x20 < c.toNat := by
  simp only [isAuthorityChar, Host.isServerChar, Bool.or_eq_true, beq_iff_eq] at h
  obtain (h | h) | rfl := h
  · exact (Host.isInner_iff.mp h).1
  · have hlt : ∀ d ∈ ":[]".toList, 0x20 < d.toNat := by decide
    exact hlt c (List.contains_iff_mem.mp h)
  · decide

theorem lt_of_segments {special : Bool} {ss : List (List Char)}
    (hss : ∀ w ∈ ss, IsSegment special w) : ∀ c ∈ (Path.segments ss).text, 0x20 < c.toNat := by
  intro c hc
  obtain ⟨w, hw, hc⟩ := List.mem_flatMap.mp hc
  obtain rfl | hc := List.mem_cons.mp hc
  · decide
  · exact Percent.lt_of_not_inPath ((hss w hw).chars c hc).1.2

theorem authorityText_of_host {h : Host} (hh : u.host = some h) :
    u.authorityText = "//".toList ++ (u.userinfoText ++ h.text ++ u.portText) := by
  simp only [authorityText, hh, List.append_assoc]

/-- Outside of a path that stands for itself, everything is printable. -/
theorem Form.lt_of_mem (hu : Form u) : (∀ c ∈ u.authorityText, 0x20 < c.toNat) ∧
    ((∃ ss, u.path = .segments ss) → ∀ c ∈ u.path.text, 0x20 < c.toNat) := by
  have hhost {s : List Char} (hs : u.authorityText = "//".toList ++ s)
      (ha : ∀ c ∈ s, isAuthorityChar c) : ∀ c ∈ u.authorityText, 0x20 < c.toNat := by
    intro c hc
    rw [hs] at hc
    obtain hc | hc := List.mem_append.mp hc
    · have hslash : ∀ d ∈ "//".toList, 0x20 < d.toNat := by decide
      exact hslash c hc
    · exact lt_of_isAuthorityChar (ha c hc)
  have hbare (hu : IsBare u) : ∀ c ∈ u.authorityText, 0x20 < c.toNat := by
    have hnone : u.host = none := by
      rw [hu]
    intro c hc
    simp only [authorityText, hnone] at hc
    split at hc
    · have hdot : ∀ d ∈ "/.".toList, 0x20 < d.toNat := by decide
      exact hdot c hc
    · cases hc
  cases hu with
  | server hk hh hp hu hne hss =>
    exact ⟨hhost (authorityText_of_host hh) hu.isAuthorityChar_text,
      fun _ => hp ▸ lt_of_segments hss⟩
  | rooted hk hu hp hne hss => exact ⟨hbare hu, fun _ => hp ▸ lt_of_segments hss⟩
  | whole hk hu hp =>
    refine ⟨hbare hu, ?_⟩
    rintro ⟨ss, hss⟩
    rw [hp] at hss
    cases hss
  | file hu =>
    refine ⟨hhost hu.authorityText_eq fun c hc => ?_, fun _ => ?_⟩
    · exact isAuthorityChar_of_isServerChar (hu.isClosed.all_isServerChar c hc)
    · rw [hu.path_eq]
      exact lt_of_segments hu.path.segment

theorem Form.exists_whole (hu : Form u) (hpath : ¬∃ ss, u.path = .segments ss) :
    ∃ s, u.path = .whole s ∧ (∀ c ∈ s, 0x20 ≤ c.toNat) ∧ u.authorityText = [] ∧
      (u.query = none → u.fragment = none → ∀ c, s.getLast? = some c → 0x20 < c.toNat) := by
  cases hu with
  | server hk hh hp => exact absurd ⟨_, hp⟩ hpath
  | rooted hk hu hp => exact absurd ⟨_, hp⟩ hpath
  | whole hk hu hp hs hslash hlast =>
    refine ⟨_, hp, fun c hc => (hs c hc).1, ?_, hlast⟩
    rw [hu, authorityText]
    simp only [hp]
  | file hu => exact absurd ⟨_, hu.path_eq⟩ hpath

theorem forall_mem_chars {p : Char → Prop} (hscheme : ∀ c ∈ u.scheme, p c) (hcolon : p ':')
    (hauthority : ∀ c ∈ u.authorityText, p c) (hpath : ∀ c ∈ u.path.text, p c)
    (htail : ∀ c ∈ u.queryText ++ u.fragmentText, p c) : ∀ c ∈ u.chars, p c := by
  intro c hc
  rw [chars_eq] at hc
  obtain hc | hc := List.mem_append.mp hc
  · exact hscheme c hc
  obtain rfl | hc := List.mem_cons.mp hc
  · exact hcolon
  obtain hc | hc := List.mem_append.mp hc
  · exact hauthority c hc
  obtain hc | hc := List.mem_append.mp hc
  · exact hpath c hc
  · exact htail c hc

theorem query_eq_none (h : u.queryText = []) : u.query = none := by
  cases hq : u.query with
  | none => rfl
  | some q => simp [queryText, hq] at h

theorem fragment_eq_none (h : u.fragmentText = []) : u.fragment = none := by
  cases hf : u.fragment with
  | none => rfl
  | some f => simp [fragmentText, hf] at h

theorem lt_of_getLast?_chars (hauthority : u.authorityText = []) (hpath : u.path = .whole s)
    (htail : ∀ c ∈ u.queryText ++ u.fragmentText, 0x20 < c.toNat)
    (hlast : u.query = none → u.fragment = none → ∀ c, s.getLast? = some c → 0x20 < c.toNat) :
    ∀ c, u.chars.getLast? = some c → 0x20 < c.toNat := by
  intro c hc
  rw [chars_eq, hauthority, hpath, List.nil_append, List.getLast?_append, List.getLast?_cons,
    List.getLast?_append] at hc
  cases htext : (u.queryText ++ u.fragmentText).getLast? with
  | some e =>
    rw [htext] at hc
    cases hc
    exact htail _ (List.mem_of_getLast? htext)
  | none =>
    rw [htext, Option.none_or, Path.text] at hc
    rw [List.getLast?_eq_none_iff, List.append_eq_nil_iff] at htext
    cases hl : s.getLast? with
    | none =>
      rw [hl] at hc
      cases hc
      decide
    | some e =>
      rw [hl] at hc
      cases hc
      exact hlast (query_eq_none htext.1) (fragment_eq_none htext.2) _ hl

theorem clean_chars (hu : IsParsed u) : clean u.chars = u.chars := by
  have hscheme : ∀ c ∈ u.scheme, 0x20 < c.toNat := fun c hc =>
    Nat.lt_of_lt_of_le (by decide)
      (Ascii.range_of_isSchemeChar (List.all_eq_true.mp hu.scheme.chars c hc)).1
  have htail := hu.tail.lt_of_mem_text
  obtain ⟨hauthority, hsegments⟩ := hu.form.lt_of_mem
  by_cases hpath : ∃ ss, u.path = .segments ss
  · exact clean_of_visible
      (forall_mem_chars hscheme (by decide) hauthority (hsegments hpath) htail)
  · -- the path may hold spaces, but the text neither starts nor ends with one
    obtain ⟨s, hs, hrange, hnone, hlast⟩ := hu.form.exists_whole hpath
    apply clean_of_ends
    · refine forall_mem_chars (fun c hc => (hscheme c hc).le) (by decide)
        (fun c hc => (hauthority c hc).le) ?_ (fun c hc => (htail c hc).le)
      rw [hs]
      exact hrange
    · obtain ⟨c, t, hc, -⟩ := hu.scheme.exists_cons
      intro d hd
      rw [chars_eq, hc] at hd
      cases hd
      exact hscheme _ (hc ▸ List.mem_cons_self)
    · exact lt_of_getLast?_chars hnone hs htail hlast

theorem readServer_text {h : Host} {ss : List (List Char)} (hh : u.host = some h)
    (hp : u.path = .segments ss) (hu : IsServer u h) (ht : IsTailed u)
    (hne : u.kind.isSpecial → ss ≠ []) (hss : ∀ w ∈ ss, IsSegment u.kind.isSpecial w) :
    readServer u.scheme (u.userinfoText ++ h.text ++ u.portText ++
      (u.path.text ++ (u.queryText ++ u.fragmentText))) = .ok u := by
  have hstop : ∀ c, (u.path.text ++ (u.queryText ++ u.fragmentText)).head? = some c →
      inAuthority u.scheme c = false := by
    intro c hc
    rw [hp] at hc
    by_cases he : ss = []
    · subst he
      rw [inAuthority, isTail_text u c hc, Bool.or_true]
      rfl
    · rw [text_segments he] at hc
      cases hc
      rfl
  have hstart : readPathStart (kindOf u.scheme).isSpecial
      (u.path.text ++ (u.queryText ++ u.fragmentText)) = (ss, u.queryText ++ u.fragmentText) := by
    rw [hp]
    exact readPathStart_text hne hss (isTail_text u)
  have hbase : { u with query := none, fragment := none } =
      { scheme := u.scheme, username := u.username, password := u.password, host := some h,
        port := u.port, path := .segments ss : Url } := by
    rw [← hh, ← hp]
  simp only [readServer, hu.readAuthority_text hstop, ok_bind, hstart]
  rw [← hbase, ht.withTail_text]
  rfl

theorem readWeb_slashes {s : List Char} (hs : ∀ c, s.head? = some c → isSlash true c = false) :
    readWeb none scheme ("//".toList ++ s) = readServer scheme s := by
  have hslashes : ("//".toList ++ s).takeWhile (isSlash true) = "//".toList :=
    (Cut.span_append (by decide) hs).1
  simp only [readWeb, hslashes]
  rfl

theorem readOther_slash {s : List Char} (hs : s.head? ≠ some '/') :
    readOther scheme ('/' :: s) = .ok
      (withTail { scheme, path := .segments (readPath false [] s).1 } (readPath false [] s).2) := by
  apply readOther.eq_2
  rintro t rfl
  exact hs rfl

theorem readOther_whole {s t : List Char}
    (hs : ∀ c ∈ s, 0x20 ≤ c.toNat ∧ c.toNat < 0x7F ∧ endsPath c = false)
    (hslash : s.head? ≠ some '/') (ht : IsTail t) :
    readOther scheme (s ++ t) = .ok (withTail { scheme, path := .whole s } t) := by
  have hin : ∀ c ∈ s, (!endsPath c) = true := by
    intro c hc
    rw [(hs c hc).2.2]
    rfl
  have hout : ∀ c, t.head? = some c → (!endsPath c) = false := by
    intro c hc
    rw [ht c hc]
    rfl
  obtain ⟨htake, hdrop⟩ := Cut.span_append hin hout
  have hfirst : (s ++ t).head? ≠ some '/' := by
    cases s with
    | nil =>
      intro hc
      cases ht '/' hc
    | cons c s => exact hslash
  have hencode : Percent.encode Percent.isControl s = s := by
    apply Percent.encode_of_forall
    intro c hc
    refine ⟨(hs c hc).2.1, ?_⟩
    rw [Percent.isControl, decide_eq_false_iff_not, Nat.not_lt]
    exact (hs c hc).1
  rw [readOther.eq_3, htake, hdrop, hencode]
  · intro r hr
    rw [hr] at hfirst
    exact hfirst rfl
  · intro r hr
    rw [hr] at hfirst
    exact hfirst rfl

/-- A path that starts with two slashes has a dot in front, which is gone over. -/
theorem readPath_dot {ss : List (List Char)} (hne : ss ≠ []) (hss : ∀ w ∈ ss, IsSegment false w)
    {t : List Char} (ht : IsTail t) :
    readPath false [] ('.' :: '/' :: (['/'].intercalate ss ++ t)) = (ss, t) := by
  obtain ⟨w, ws, rfl⟩ := List.exists_cons_of_ne_nil hne
  have hdot : '.' :: '/' :: (['/'].intercalate (w :: ws) ++ t) =
      ['/'].intercalate (['.'] :: w :: ws) ++ t := by
    rw [List.intercalate_cons_cons]
    rfl
  have hchars : ∀ v ∈ ['.'] :: w :: ws, ∀ c ∈ v, IsSegmentChar false c := by
    rw [List.forall_mem_cons]
    refine ⟨?_, fun v hv => (hss v hv).chars⟩
    unfold IsSegmentChar
    decide
  obtain ⟨hsegments, hdrop⟩ := segmentsOf_text (List.cons_ne_nil _ _) hchars ht
  rw [readPath, hdot, hsegments, hdrop, addSegments]
  exact congrArg (·, t) (addSegments_of_isSegment hss)

theorem IsBare.withTail_text (hu : IsBare u) (ht : IsTailed u) :
    withTail { scheme := u.scheme, path := u.path } (u.queryText ++ u.fragmentText) = u := by
  have hbase : { u with query := none, fragment := none } =
      { scheme := u.scheme, path := u.path : Url } := by
    rw [hu]
  rw [← hbase, ht.withTail_text]

theorem head?_intercalate_ne_slash {ss : List (List Char)} (hne : ss ≠ [])
    (hss : ∀ w ∈ ss, IsSegment false w) (hfirst : ∀ v vs, ss ≠ [] :: v :: vs) {t : List Char}
    (ht : IsTail t) : (['/'].intercalate ss ++ t).head? ≠ some '/' := by
  obtain ⟨w, ws, rfl⟩ := List.exists_cons_of_ne_nil hne
  cases w with
  | nil =>
    cases ws with
    | nil =>
      intro hc
      cases ht '/' hc
    | cons v ws => exact absurd rfl (hfirst v ws)
  | cons c w =>
    have hc := ((hss _ List.mem_cons_self).chars c List.mem_cons_self).2
    have hhead : (['/'].intercalate ((c :: w) :: ws) ++ t).head? = some c := by
      cases ws with
      | nil =>
        rw [List.intercalate_singleton]
        rfl
      | cons v ws =>
        rw [List.intercalate_cons_cons]
        rfl
    rw [hhead]
    intro he
    cases he
    cases hc

theorem readOther_rooted {ss : List (List Char)} (hu : IsBare u) (ht : IsTailed u)
    (hp : u.path = .segments ss) (hne : ss ≠ []) (hss : ∀ w ∈ ss, IsSegment false w) :
    readOther u.scheme (u.authorityText ++ (u.path.text ++ (u.queryText ++ u.fragmentText))) =
      .ok u := by
  have hnone : u.host = none := by rw [hu]
  have htail := hu.withTail_text ht
  rw [hp] at htail
  simp only [authorityText, hnone, hp, text_segments hne]
  split
  next v vs he =>
    cases he
    have htext (s : List Char) : "/.".toList ++ ('/' :: s ++ (u.queryText ++ u.fragmentText)) =
        '/' :: '.' :: '/' :: (s ++ (u.queryText ++ u.fragmentText)) := rfl
    rw [htext, readOther_slash (by rw [List.head?_cons]; decide),
      readPath_dot hne hss (isTail_text u), htail]
  next hn =>
    have hfirst : ∀ v vs, ss ≠ [] :: v :: vs := by
      rintro v vs rfl
      exact hn v vs rfl
    rw [List.nil_append, List.cons_append,
      readOther_slash (head?_intercalate_ne_slash hne hss hfirst (isTail_text u)),
      readPath_text hne hss (isTail_text u), List.nil_append, htail]

theorem readOther_text (hk : u.kind = .other) (hu : Form u) (ht : IsTailed u) :
    readOther u.scheme (u.authorityText ++ (u.path.text ++ (u.queryText ++ u.fragmentText))) =
      .ok u := by
  cases hu with
  | server _ hh hp hu hne hss =>
    rw [authorityText_of_host hh]
    exact readServer_text hh hp hu ht hne hss
  | rooted _ hu hp hne hss => exact readOther_rooted hu ht hp hne hss
  | whole _ hu hp hs hslash =>
    have hnone : u.host = none := by rw [hu]
    have htail := hu.withTail_text ht
    rw [hp] at htail
    simp only [authorityText, hnone, hp, Path.text, List.nil_append]
    rw [readOther_whole hs hslash (isTail_text u), htail]
  | file hu =>
    have hfile : u.kind = .file := by
      rw [hu.eq]
      rfl
    rw [hk] at hfile
    cases hfile

theorem parse_chars (hu : IsParsed u)
    (hd : u.kind = .file → driveSegments (pathSegments u) = pathSegments u) :
    parse u.chars = .ok u := by
  have hclean := clean_chars hu
  rw [chars_eq] at hclean ⊢
  rw [parse_of_isScheme hu.scheme hclean]
  -- The reader goes by the kind of the scheme, which leaves few of the forms.
  cases hk : kindOf u.scheme with
  | file =>
    have hd := hd hk
    cases hu.form with
    | server hn => exact absurd hk hn
    | rooted hn => cases hk.symm.trans hn
    | whole hn => cases hk.symm.trans hn
    | file hu =>
      rw [pathSegments, hu.path_eq] at hd
      rw [hu.authorityText_eq, hu.path_eq, List.append_assoc]
      exact readFileServer_text hu hd
  | web =>
    cases hu.form with
    | @server h ss hn hh hp hs hne hss =>
      rw [authorityText_of_host hh, List.append_assoc]
      refine (readWeb_slashes fun c hc => ?_).trans (readServer_text hh hp hs hu.tail hne hss)
      have hspecial : (kindOf u.scheme).isSpecial := by
        rw [hk]
        rfl
      have hne : u.userinfoText ++ h.text ++ u.portText ≠ [] := by
        intro he
        rw [List.append_assoc, List.append_eq_nil_iff, List.append_eq_nil_iff] at he
        exact hs.host.text_ne_nil hspecial he.2.1
      obtain ⟨d, t, hd⟩ := List.exists_cons_of_ne_nil hne
      rw [hd] at hc
      cases hc
      have hin := inAuthority_of_isAuthorityChar (hs.isAuthorityChar_text c (by simp [hd])) u.scheme
      rw [inAuthority, hspecial, Bool.not_eq_true', Bool.or_eq_false_iff] at hin
      exact hin.1
    | rooted hn => cases hk.symm.trans hn
    | whole hn => cases hk.symm.trans hn
    | file hu =>
      rw [hu.eq] at hk
      cases hk
  | other => exact readOther_text hk hu.form hu.tail

end Parser

end Url

end ScrapeCourier
