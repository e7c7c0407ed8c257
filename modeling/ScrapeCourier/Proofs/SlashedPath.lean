import ScrapeCourier.Proofs.UrlText

namespace ScrapeCourier.Url.Parser

variable {special : Bool} {s t r : List Char} {ss ws : List (List Char)} {w : List Char}

def stepSegment (ss : List (List Char)) (w : List Char) : List (List Char) :=
  if isDoubleDot w then dropLastSegment ss else if isDot w then ss else ss ++ [w]

theorem addSegments_concat (ss ws : List (List Char)) :
    addSegments ss (ws ++ [[]]) = ws.foldl stepSegment ss ++ [[]] := by
  induction ws generalizing ss with
  | nil => rfl
  | cons w ws ih =>
    obtain ⟨v, vs, hv⟩ := List.exists_cons_of_ne_nil (List.append_ne_nil_of_right_ne_nil ws
      (List.cons_ne_nil ([] : List Char) []))
    rw [List.foldl_cons, ← ih, List.cons_append, hv, addSegments, stepSegment]
    split
    · rfl
    · split
      · rfl
      · rfl

/-- A segment that stays where it is put. -/
def Stays (w : List Char) : Prop := w ≠ [] ∧ isDot w = false ∧ isDoubleDot w = false

theorem stepSegment_of_stays (h : Stays w) : stepSegment ss w = ss ++ [w] := by
  rw [stepSegment, h.2.1, h.2.2]
  rfl

/-- The last segment stays, or is the only one and not empty. -/
def EndWell (ws : List (List Char)) : Prop :=
  ∀ w, ws.getLast? = some w → Stays w ∨ w ≠ [] ∧ ws = [w]

theorem getLast?_foldl (h : EndWell ws) : (ws.foldl stepSegment []).getLast? ≠ some [] := by
  obtain rfl | ⟨vs, w, rfl⟩ := List.eq_nil_or_concat ws
  · exact nofun
  · rw [List.concat_eq_append] at h ⊢
    obtain hw | ⟨hw, hs⟩ := h w List.getLast?_concat
    · rw [List.foldl_concat, stepSegment_of_stays hw, List.getLast?_concat]
      exact fun he => hw.1 (Option.some.inj he)
    · rw [hs, List.foldl_cons, List.foldl_nil, stepSegment]
      split
      · exact nofun
      · split
        · exact nofun
        · exact fun he => hw (Option.some.inj he)

section

variable (hs : ∀ c ∈ s, endsPath c = false)
include hs

theorem not_endsPath_concat : ∀ c ∈ s ++ ['/'], endsPath c = false := by
  intro c hc
  obtain hc | hc := List.mem_append.mp hc
  · exact hs c hc
  · rw [List.mem_singleton.mp hc]
    rfl

theorem span_of_not_endsPath :
    s.takeWhile (!endsPath ·) = s ∧ s.dropWhile (!endsPath ·) = [] := by
  have hin : ∀ c ∈ s, (!endsPath c) = true := by
    intro c hc
    rw [hs c hc]
    rfl
  exact ⟨List.takeWhile_eq_self_iff.mpr hin, List.dropWhile_eq_nil_iff.mpr hin⟩

theorem segmentsOf_eq (special : Bool) : segmentsOf special s =
    (s.splitOnP (isSlash special)).map (Percent.encode Percent.inPath) := by
  rw [segmentsOf, (span_of_not_endsPath hs).1]

theorem segmentsOf_concat (special : Bool) :
    segmentsOf special (s ++ ['/']) = segmentsOf special s ++ [[]] := by
  rw [segmentsOf_eq (not_endsPath_concat hs), segmentsOf_eq hs, List.splitOnP_append_cons _ _ rfl,
    List.map_append]
  rfl

end

theorem tail_splitOnP_suffix {α : Type} {p : α → Bool} {s t : List α} (h : s <:+ t) :
    (s.splitOnP p).tail <:+ (t.splitOnP p).tail := by
  obtain ⟨u, rfl⟩ := h
  induction u with
  | nil => exact List.suffix_rfl
  | cons x u ih =>
    rw [List.cons_append, List.splitOnP_cons_eq_if_modifyHead]
    split
    · exact ih.trans (List.tail_suffix _)
    · rwa [List.tail_modifyHead]

theorem tail_segmentsOf_suffix (special : Bool) (hs : s <:+ t) (ht : ∀ c ∈ t, endsPath c = false) :
    (segmentsOf special s).tail <:+ (segmentsOf special t).tail := by
  have hmem : ∀ c ∈ s, endsPath c = false := fun c hc => ht c (hs.subset hc)
  rw [segmentsOf_eq hmem, segmentsOf_eq ht, ← List.map_tail, ← List.map_tail]
  exact (tail_splitOnP_suffix hs).map _

section

variable {c : Char} (hs : ∀ d ∈ c :: s, endsPath d = false)
include hs

theorem segmentsOf_slash (hc : isSlash special c) :
    segmentsOf special (c :: s) = [] :: segmentsOf special s := by
  rw [segmentsOf_eq hs,
    segmentsOf_eq (List.forall_mem_cons.mp hs).2,
    List.splitOnP_cons_eq_if_modifyHead, if_pos hc]
  rfl

theorem exists_segmentsOf_cons (hc : ¬isSlash special c) :
    ∃ w ws, w ≠ [] ∧ segmentsOf special (c :: s) = w :: ws := by
  obtain ⟨v, vs, hv⟩ := List.exists_cons_of_ne_nil (List.splitOnP_ne_nil (isSlash special) s)
  rw [segmentsOf_eq hs, List.splitOnP_cons_eq_if_modifyHead, if_neg hc, hv]
  exact ⟨_, _, Percent.encode_ne_nil (List.cons_ne_nil c v), rfl⟩

end

/-- The last segment of a text stays. -/
def EndStays (special : Bool) (t : List Char) : Prop :=
  ∀ w, (segmentsOf special t).getLast? = some w → Stays w

theorem stays_of_suffix (hws : ws <:+ (segmentsOf special t).tail) (hw : ws.getLast? = some w)
    (hlast : EndStays special t) : Stays w := by
  obtain ⟨us, hus⟩ := hws.trans (List.tail_suffix _)
  apply hlast
  rw [← hus, List.getLast?_append, hw, Option.some_or]

section

variable (ht : ∀ c ∈ t, endsPath c = false) (hlast : EndStays special t)
include ht hlast

theorem endWell_of_slash {c : Char} (hs : c :: s <:+ t) (hc : isSlash special c) :
    EndWell (segmentsOf special s) := by
  intro w hw
  have htail := tail_segmentsOf_suffix special hs ht
  rw [segmentsOf_slash (fun d hd => ht d (hs.subset hd)) hc] at htail
  exact .inl (stays_of_suffix htail hw hlast)

theorem endWell_of_suffix {c : Char} (hs : c :: s <:+ t) (hc : ¬isSlash special c) :
    EndWell (segmentsOf special (c :: s)) := by
  intro w hw
  have htail := tail_segmentsOf_suffix special hs ht
  obtain ⟨v, vs, hv, hsegments⟩ := exists_segmentsOf_cons (fun d hd => ht d (hs.subset hd)) hc
  rw [hsegments] at hw htail ⊢
  obtain rfl | hvs := eq_or_ne vs []
  · obtain rfl := Option.some.inj hw
    exact .inr ⟨hv, rfl⟩
  · rw [List.getLast?_cons_of_ne_nil hvs] at hw
    exact .inl (stays_of_suffix htail hw hlast)

end

theorem exists_segmentsOf_dropSlash (special : Bool) (ht : ∀ c ∈ t, endsPath c = false)
    (hs : s <:+ t ++ ['/']) : ∃ ws, segmentsOf special (dropSlash special s) = ws ++ [[]] ∧
      (dropSlash special s).dropWhile (!endsPath ·) = [] ∧
      (EndStays special t → EndWell ws) := by
  have hnil : ∃ ws, segmentsOf special [] = ws ++ [[]] ∧
      ([] : List Char).dropWhile (!endsPath ·) = [] ∧ (EndStays special t → EndWell ws) :=
    ⟨[], rfl, rfl, nofun⟩
  obtain rfl | ⟨r, rfl, hr⟩ := List.suffix_concat_iff.mp hs
  · exact hnil
  have hmem : ∀ c ∈ r, endsPath c = false := fun c hc => ht c (hr.subset hc)
  cases r with
  | nil => exact hnil
  | cons c r =>
    rw [List.cons_append, dropSlash]
    split
    next hc =>
      have hmem := (List.forall_mem_cons.mp hmem).2
      exact ⟨_, segmentsOf_concat hmem special, (span_of_not_endsPath (not_endsPath_concat hmem)).2,
        fun hlast => endWell_of_slash ht hlast hr hc⟩
    next hc =>
      exact ⟨_, segmentsOf_concat hmem special, (span_of_not_endsPath (not_endsPath_concat hmem)).2,
        fun hlast => endWell_of_suffix ht hlast hr hc⟩

theorem readPath_slashed (special : Bool) (ht : ∀ c ∈ t, endsPath c = false)
    (hs : s <:+ t ++ ['/']) : ∃ vs, readPath special [] (dropSlash special s) = (vs ++ [[]], []) ∧
      (EndStays special t → vs.getLast? ≠ some []) := by
  obtain ⟨ws, hsegments, hrest, hwell⟩ := exists_segmentsOf_dropSlash special ht hs
  refine ⟨ws.foldl stepSegment [], ?_, fun hlast => getLast?_foldl (hwell hlast)⟩
  rw [readPath, hsegments, hrest, addSegments_concat]

theorem driveSegments_cons (w : List Char) (ws : List (List Char)) :
    driveSegments (w :: ws) = driveSegments [w] ++ ws := by
  rw [driveSegments.eq_def (w :: ws)]
  split
  next h =>
    cases h
    rw [driveSegments]
    split
    · rfl
    · rfl
  next h =>
    cases h
    rw [driveSegments]
    split
    · rfl
    · rfl
  next hbar hcolon =>
    rw [driveSegments.eq_3]
    · rfl
    · rintro l _ h
      cases h
      exact hbar _ _ rfl
    · rintro l c v _ h
      cases h
      exact hcolon _ _ _ _ rfl

theorem driveSegments_concat (ws : List (List Char)) :
    driveSegments (ws ++ [[]]) = driveSegments ws ++ [[]] := by
  cases ws with
  | nil => rfl
  | cons w ws =>
    rw [List.cons_append, driveSegments_cons, driveSegments_cons w ws, List.append_assoc]

theorem EndWell.of_cons_cons {v : List Char} (h : EndWell (v :: w :: ws)) (vs : List (List Char)) :
    EndWell (vs ++ w :: ws) := by
  intro x hx
  rw [List.getLast?_append_of_ne_nil _ (List.cons_ne_nil _ _)] at hx
  obtain hx | ⟨-, he⟩ := h x (by rwa [List.getLast?_cons_cons])
  · exact .inl hx
  · cases he

theorem getLast?_foldl_driveSegments (h : EndWell ws) :
    ((driveSegments ws).foldl stepSegment []).getLast? ≠ some [] := by
  -- A drive letter takes the place of its segment, with or without a name behind it.
  unfold driveSegments
  split
  next l ws =>
    split
    · apply getLast?_foldl
      cases ws with
      | nil => 
        intro w hw
        obtain rfl := Option.some.inj hw
        exact .inr ⟨List.cons_ne_nil _ _, rfl⟩
      | cons w ws => exact h.of_cons_cons [_]
    · exact getLast?_foldl h
  next l c w ws =>
    split
    next hl =>
      cases ws with
      | nil =>
        have hstays : Stays [l, ':'] := by simp [Stays, isDot, isDoubleDot]
        have hdrive : dropLastSegment [[l, ':']] = [[l, ':']] := by
          simp [dropLastSegment, isDrive, hl]
        rw [List.foldl_cons, List.foldl_cons, List.foldl_nil, stepSegment_of_stays hstays,
          List.nil_append, stepSegment, hdrive]
        split
        · simp
        · split
          · simp
          · simp
      | cons v ws => exact getLast?_foldl (h.of_cons_cons [_, _])
    · exact getLast?_foldl h
  · exact getLast?_foldl h

theorem readFilePath_slashed (ht : ∀ c ∈ t, endsPath c = false) (hs : s <:+ t ++ ['/']) :
    ∃ vs, readFilePath [] (dropSlash true s) = (vs ++ [[]], []) ∧
      (EndStays true t → vs.getLast? ≠ some []) := by
  obtain ⟨ws, hsegments, hrest, hwell⟩ := exists_segmentsOf_dropSlash true ht hs
  have hlast (h : EndWell ws) := getLast?_foldl_driveSegments h
  have hwords := addSegments_concat [] (driveSegments ws)
  generalize (driveSegments ws).foldl stepSegment [] = vs at hlast hwords
  refine ⟨vs.dropWhile (·.isEmpty), ?_, fun hstays he => ?_⟩
  · simp only [readFilePath, hsegments, hrest, List.isEmpty_nil, if_true, driveSegments_concat,
      hwords, List.dropWhile_append]
    cases hempty : (vs.dropWhile (·.isEmpty)).isEmpty with
    | true =>
      rw [List.isEmpty_iff.mp hempty]
      rfl
    | false => simp
  · obtain ⟨us, hus⟩ := List.dropWhile_suffix (·.isEmpty) (l := vs)
    apply hlast (hwell hstays)
    rw [← hus, List.getLast?_append, he, Option.some_or]

/-- Nothing stands behind the path, and the path ends in a slash, in no more than one if the last
segment of the text stays. -/
structure IsSlashed (t : List Char) (u : Url) : Prop where
  query : u.query = none
  fragment : u.fragment = none
  path : match u.path with
    | .segments ss => ∃ vs, ss = vs ++ [[]] ∧ (EndStays u.kind.isSpecial t → vs.getLast? ≠ some [])
    | .whole s => ∃ v, s = v ++ ['/'] ∧ v.getLast? ≠ some '/'

theorem isSlashed_withTail {b : Url} {r : List (List Char) × List Char}
    (hp : b.path = .segments r.1) (hr : ∃ vs, r = (vs ++ [[]], []) ∧
      (EndStays b.kind.isSpecial t → vs.getLast? ≠ some [])) : IsSlashed t (withTail b r.2) := by
  obtain ⟨vs, rfl, hlast⟩ := hr
  refine ⟨rfl, rfl, ?_⟩
  change match b.path with
    | .segments ss => ∃ vs, ss = vs ++ [[]] ∧ (EndStays b.kind.isSpecial t → vs.getLast? ≠ some [])
    | .whole s => ∃ v, s = v ++ ['/'] ∧ v.getLast? ≠ some '/'
  rw [hp]
  exact ⟨vs, rfl, hlast⟩

theorem suffix_of_readPort {scheme unread : List Char} {port : Option Nat}
    (h : readPort scheme s = .ok (port, unread)) : unread <:+ s := by
  rw [readPort] at h
  split at h
  · cases h
  · cases h
    exact List.dropWhile_suffix _

theorem suffix_of_readAuthority {scheme out : List Char} {a : Authority}
    (h : readAuthority scheme s = .ok (a, out)) :
    out <:+ s ∧ s.dropWhile (inAuthority scheme) <:+ out := by
  obtain ⟨unread, hparts, rfl⟩ := of_readAuthority h
  refine ⟨?_, List.suffix_append _ _⟩
  obtain ⟨v, hv⟩ : unread <:+ s.takeWhile (inAuthority scheme) := by
    apply (suffix_of_readPort hparts.port).trans
    apply (List.drop_suffix _ _).trans
    exact List.IsSuffix.trans ⟨_, splitPort_append false _⟩ (serverOf_suffix _)
  refine ⟨v, ?_⟩
  rw [← List.append_assoc, hv, List.takeWhile_append_dropWhile]

section

variable {scheme : List Char} {u : Url} (ht : ∀ c ∈ t, endsPath c = false) (hs : s <:+ t ++ ['/'])
include ht hs

theorem isSlashed_of_readServer (hne : s ≠ []) (h : readServer scheme s = .ok u) :
    IsSlashed t u := by
  obtain ⟨⟨a, rest⟩, ha, h⟩ := bind_eq_ok.mp h
  obtain ⟨hrest, hafter⟩ := suffix_of_readAuthority ha
  obtain ⟨c, r, rfl⟩ : ∃ c r, rest = c :: r := by
    apply List.exists_cons_of_ne_nil
    rintro rfl
    obtain hs | ⟨r, rfl, -⟩ := List.suffix_concat_iff.mp hs
    · exact hne hs
    · have hall := List.dropWhile_eq_nil_iff.mp (List.suffix_nil.mp hafter) '/' (by simp)
      exact absurd hall Bool.false_ne_true
  have hc := not_endsPath_concat ht c ((hrest.trans hs).subset List.mem_cons_self)
  have hpath := readPath_slashed (kindOf scheme).isSpecial ht (hrest.trans hs)
  have hstart : readPathStart (kindOf scheme).isSpecial (c :: r) =
      readPath (kindOf scheme).isSpecial [] (dropSlash (kindOf scheme).isSpecial (c :: r)) := by
    rw [readPathStart, if_neg]
    simp [hc]
  rw [← hstart] at hpath
  cases h
  exact isSlashed_withTail rfl hpath

theorem isSlashed_of_readFilePath (host : Host) :
    IsSlashed t (withTail (fileUrl host (readFilePath [] (dropSlash true s)).1)
      (readFilePath [] (dropSlash true s)).2) :=
  isSlashed_withTail rfl (readFilePath_slashed ht hs)

theorem isSlashed_of_readFileServer (h : readFileServer s = .ok u) : IsSlashed t u := by
  unfold readFileServer at h
  extract_lets inHost text atHost at h
  split at h
  next hdrive =>
    have hfirst : dropSlash true s = s := by
      cases s with
      | nil => rfl
      | cons c s =>
        have hc : inHost c := by
          by_contra hc
          rw [show text = [] from List.takeWhile_cons_of_neg hc] at hdrive
          cases hdrive
        rw [dropSlash, if_neg]
        intro hslash
        simp [inHost, hslash] at hc
    have hpath := isSlashed_of_readFilePath ht hs .empty
    rw [hfirst] at hpath
    cases h
    exact hpath
  · rw [← apply_ite (· >>= _)] at h
    obtain ⟨host, -, h⟩ := bind_eq_ok.mp h
    have hpath := isSlashed_of_readFilePath ht ((List.dropWhile_suffix inHost).trans hs)
    cases h
    exact hpath _

theorem isSlashed_of_readFile (h : readFile none s = .ok u) : IsSlashed t u := by
  have hdrive (r : List Char) : readFile.onDrive none r =
      withTail (fileUrl .empty (readFilePath [] r).1) (readFilePath [] r).2 := by
    rw [readFile.onDrive]
    simp only [ite_self]
  have hpath := isSlashed_of_readFilePath ht hs .empty
  unfold readFile at h
  split at h
  next c r =>
    split at h
    next hc =>
      rw [dropSlash, if_pos hc, ← hdrive] at hpath
      split at h
      next d r' =>
        split at h
        · exact isSlashed_of_readFileServer ht (((List.suffix_cons d r').trans
            (List.suffix_cons c _)).trans hs) h
        · cases h
          exact hpath
      · cases h
        exact hpath
    next hc =>
      rw [dropSlash, if_neg hc] at hpath
      cases h
      exact hpath
  · cases h
    exact hpath

theorem isSlashed_of_readWeb (hk : kindOf scheme = .web) (h : readWeb none scheme s = .ok u) :
    IsSlashed t u := by
  apply isSlashed_of_readServer ht ((List.drop_suffix _ s).trans hs) _ h
  intro he
  simp only [readWeb, he] at h
  obtain ⟨⟨a, rest⟩, ha, -⟩ := bind_eq_ok.mp h
  obtain ⟨unread, hparts, -⟩ := of_readAuthority ha
  exact hparts.named (by rw [hk]; rfl) rfl

theorem isSlashed_of_readOther (hlast : t.getLast? ≠ some '/') (hne : s ≠ [])
    (hk : kindOf scheme = .other) (h : readOther scheme s = .ok u) : IsSlashed t u := by
  obtain ⟨r, rfl, hr⟩ := (List.suffix_concat_iff.mp hs).resolve_left hne
  have hend : r.getLast? ≠ some '/' := by
    intro he
    obtain ⟨v, rfl⟩ := hr
    apply hlast
    rw [List.getLast?_append, he, Option.some_or]
  generalize hs' : r ++ ['/'] = s at hs h
  unfold readOther at h
  split at h
  next r' =>
    refine isSlashed_of_readServer ht ((List.suffix_append "//".toList r').trans hs) ?_ h
    rintro rfl
    obtain ⟨rfl, -⟩ := List.append_inj' (hs'.trans (List.singleton_append).symm) rfl
    exact hend rfl
  next r' _ =>
    cases h
    apply isSlashed_withTail (r := readPath false [] r') rfl
    change ∃ vs, _ ∧ (EndStays (kindOf scheme).isSpecial t → _)
    rw [hk]
    exact readPath_slashed (s := '/' :: r') false ht hs
  · have hin : ∀ c ∈ r, endsPath c = false := fun c hc => ht c (hr.subset hc)
    obtain ⟨htake, hdrop⟩ := span_of_not_endsPath (not_endsPath_concat hin)
    rw [← hs', htake, hdrop] at h
    cases h
    refine ⟨rfl, rfl, Percent.encode Percent.isControl r, List.flatMap_append, ?_⟩
    intro he
    apply Percent.getLast?_encode (p := (· ≠ '/')) (by decide) _ _ he rfl
    rintro c hc rfl
    exact hend hc

end

theorem isSlashed_of_parse {u : Url} (ht : ∀ c ∈ t, endsPath c = false ∧ isDropped c = false)
    (hlast : t.getLast? ≠ some '/') (h : parse (t ++ ['/']) = .ok u) : IsSlashed t u := by
  obtain ⟨pre, hpre⟩ := List.dropWhile_suffix isTrimmed (l := t)
  have hsuffix : t.dropWhile isTrimmed ++ ['/'] <:+ t ++ ['/'] :=
    ⟨pre, by rw [← List.append_assoc, hpre]⟩
  have hclean : clean (t ++ ['/']) = t.dropWhile isTrimmed ++ ['/'] := by
    have hslash : ¬isTrimmed '/' := by decide
    rw [clean, Cut.dropWhile_concat _ hslash, List.reverse_concat,
      List.dropWhile_cons_of_neg hslash, List.reverse_cons, List.reverse_reverse]
    apply List.filter_eq_self.mpr
    intro c hc
    obtain hc | hc := List.mem_append.mp (hsuffix.subset hc)
    · rw [(ht c hc).2]
      rfl
    · rw [List.mem_singleton.mp hc]
      rfl
  have ht : ∀ c ∈ t, endsPath c = false := fun c hc => (ht c hc).1
  simp only [parse, read, hclean] at h
  split at h
  next scheme rest hsplit =>
    obtain ⟨-, pre, hpre⟩ := of_splitScheme? hsplit
    have hrest : rest <:+ t ++ ['/'] :=
      List.IsSuffix.trans ⟨pre ++ [':'], by rw [hpre]; simp⟩ hsuffix
    have hne : rest ≠ [] := by
      rintro rfl
      have he := (List.append_inj' hpre rfl).2
      cases he
    split at h
    · exact isSlashed_of_readFile ht hrest h
    next hk => exact isSlashed_of_readWeb ht hrest hk h
    next hk => exact isSlashed_of_readOther ht hrest hlast hne hk h
  · cases h

end ScrapeCourier.Url.Parser
