import ScrapeCourier.Proofs.Cut
import ScrapeCourier.Proofs.Escapes
import ScrapeCourier.Url.Parser

namespace ScrapeCourier.Url.Parser

def IsSegmentChar (special : Bool) (c : Char) : Prop :=
  (c.toNat < 0x7F ∧ Percent.inPath c = false) ∧ isSlash special c = false

/-- A segment as a path holds it. -/
structure IsSegment (special : Bool) (w : List Char) : Prop where
  chars : ∀ c ∈ w, IsSegmentChar special c
  notDot : isDot w = false
  notDoubleDot : isDoubleDot w = false

theorem isSegment_nil (special : Bool) : IsSegment special [] := ⟨nofun, rfl, rfl⟩

variable {special : Bool} {ss ws : List (List Char)}

theorem isSegment_of_mem_addSegments (hss : ∀ w ∈ ss, IsSegment special w)
    (hws : ∀ w ∈ ws, ∀ c ∈ w, IsSegmentChar special c) :
    ∀ w ∈ addSegments ss ws, IsSegment special w := by
  have hdrop : ∀ ss : List (List Char), (∀ w ∈ ss, IsSegment special w) →
      ∀ w ∈ dropLastSegment ss, IsSegment special w := by
    intro ss hss w hw
    rw [dropLastSegment] at hw
    split at hw
    · exact hss w hw
    · exact hss w (List.dropLast_subset _ hw)
  have hpush : ∀ ss w, (∀ w ∈ ss, IsSegment special w) → IsSegment special w →
      ∀ v ∈ ss ++ [w], IsSegment special v := by
    intro ss w hss hw v hv
    obtain hv | hv := List.mem_append.mp hv
    · exact hss v hv
    · rwa [List.mem_singleton.mp hv]
  fun_induction addSegments ss ws with
  | case1 ss => exact hss
  | case2 ss w h => exact hpush _ _ (hdrop ss hss) (isSegment_nil special)
  | case3 ss w h h' => exact hpush _ _ hss (isSegment_nil special)
  | case4 ss w h h' =>
    exact hpush _ _ hss ⟨hws w (List.mem_singleton_self w), Bool.eq_false_iff.mpr h',
      Bool.eq_false_iff.mpr h⟩
  | case5 ss w v ws h ih =>
    exact ih (hdrop ss hss) fun w hw => hws w (List.mem_cons_of_mem _ hw)
  | case6 ss w v ws h h' ih => exact ih hss fun w hw => hws w (List.mem_cons_of_mem _ hw)
  | case7 ss w v ws h h' ih =>
    refine ih (hpush _ _ hss ?_) fun w hw => hws w (List.mem_cons_of_mem _ hw)
    exact ⟨hws w List.mem_cons_self, Bool.eq_false_iff.mpr h', Bool.eq_false_iff.mpr h⟩

theorem addSegments_ne_nil (hws : ws ≠ []) : addSegments ss ws ≠ [] := by
  fun_induction addSegments ss ws with
  | case1 ss => contradiction
  | case2 ss w h => simp
  | case3 ss w h h' => simp
  | case4 ss w h h' => simp
  | case5 ss w v ws h ih => exact ih (List.cons_ne_nil _ _)
  | case6 ss w v ws h h' ih => exact ih (List.cons_ne_nil _ _)
  | case7 ss w v ws h h' ih => exact ih (List.cons_ne_nil _ _)

theorem addSegments_of_isSegment (hws : ∀ w ∈ ws, IsSegment special w) :
    addSegments ss ws = ss ++ ws := by
  induction ws generalizing ss with
  | nil => rw [addSegments, List.append_nil]
  | cons w ws ih =>
    rw [List.forall_mem_cons] at hws
    cases ws with
    | nil => rw [addSegments, hws.1.notDot, hws.1.notDoubleDot]; rfl
    | cons v ws =>
      rw [addSegments, hws.1.notDot, hws.1.notDoubleDot]
      simp only [Bool.false_eq_true, if_false]
      rw [ih hws.2, List.append_assoc, List.singleton_append]

theorem not_of_mem_splitOnP {α : Type} {p : α → Bool} {s w : List α} (hw : w ∈ s.splitOnP p) :
    ∀ x ∈ w, x ∈ s ∧ p x = false := by
  induction s generalizing w with
  | nil =>
    rw [List.splitOnP_nil, List.mem_singleton] at hw
    rw [hw]
    exact nofun
  | cons y s ih =>
    have hrest {v : List α} (hv : v ∈ s.splitOnP p) : ∀ x ∈ v, x ∈ y :: s ∧ p x = false :=
      fun x hx => (ih hv x hx).imp_left (List.mem_cons_of_mem y)
    rw [List.splitOnP_cons_eq_if_modifyHead] at hw
    split at hw
    · obtain rfl | hw := List.mem_cons.mp hw
      · exact nofun
      · exact hrest hw
    next hy =>
      obtain ⟨v, vs, hs⟩ := List.exists_cons_of_ne_nil (List.splitOnP_ne_nil p s)
      rw [hs, List.modifyHead_cons] at hw
      rw [hs] at hrest
      obtain rfl | hw := List.mem_cons.mp hw
      · rw [List.forall_mem_cons]
        exact ⟨⟨List.mem_cons_self, Bool.eq_false_iff.mpr hy⟩, hrest List.mem_cons_self⟩
      · exact hrest (List.mem_cons_of_mem v hw)

theorem splitOnP_intercalate {α : Type} {p : α → Bool} {x : α} (hx : p x) {ws : List (List α)}
    (hne : ws ≠ []) (hws : ∀ w ∈ ws, ∀ y ∈ w, p y = false) :
    ([x].intercalate ws).splitOnP p = ws := by
  induction ws with
  | nil => contradiction
  | cons w ws ih =>
    rw [List.forall_mem_cons] at hws
    cases ws with
    | nil =>
      rw [List.intercalate_singleton]
      exact List.splitOnP_eq_singleton hws.1
    | cons v ws =>
      rw [List.intercalate_cons_cons, List.append_assoc, List.singleton_append,
        List.splitOnP_append_cons_of_forall_mem hws.1 x hx, ih (List.cons_ne_nil _ _) hws.2]

theorem isSegmentChar_segmentsOf (s : List Char) :
    ∀ w ∈ segmentsOf special s, ∀ c ∈ w, IsSegmentChar special c := by
  intro w hw
  obtain ⟨v, hv, rfl⟩ := List.mem_map.mp hw
  apply Percent.forall_mem_encode
  · cases special with
    | true => unfold IsSegmentChar; decide
    | false => unfold IsSegmentChar; decide
  · exact fun c hc hlt he => ⟨⟨hlt, he⟩, (not_of_mem_splitOnP hv c hc).2⟩

theorem segmentsOf_ne_nil (special : Bool) (s : List Char) : segmentsOf special s ≠ [] := by
  rw [segmentsOf, ne_eq, List.map_eq_nil_iff]
  exact List.splitOnP_ne_nil _ _

theorem text_segments (hss : ss ≠ []) :
    (Path.segments ss).text = '/' :: ['/'].intercalate ss := by
  induction ss with
  | nil => contradiction
  | cons w ss ih =>
    cases ss with
    | nil => simp [Path.text]
    | cons v ss =>
      have h := ih (List.cons_ne_nil _ _)
      rw [Path.text] at h ⊢
      rw [List.flatMap_cons, h, List.intercalate_cons_cons]
      simp

def IsTail (t : List Char) : Prop := ∀ c, t.head? = some c → endsPath c

theorem not_endsPath_of_inPath {c : Char} (h : Percent.inPath c = false) : endsPath c = false := by
  rw [endsPath, Bool.or_eq_false_iff, beq_eq_false_iff_ne, beq_eq_false_iff_ne]
  constructor
  · rintro rfl
    cases h
  · rintro rfl
    cases h

theorem not_endsPath_of_mem (hws : ∀ w ∈ ws, ∀ c ∈ w, IsSegmentChar special c) :
    ∀ c ∈ ['/'].intercalate ws, (!endsPath c) = true := by
  intro c hc
  obtain rfl | ⟨w, hw, hc⟩ := Cut.mem_intercalate hc
  · rfl
  · rw [not_endsPath_of_inPath (hws w hw c hc).1.2]
    rfl

theorem segmentsOf_text (hne : ws ≠ []) (hws : ∀ w ∈ ws, ∀ c ∈ w, IsSegmentChar special c)
    {t : List Char} (ht : IsTail t) : segmentsOf special (['/'].intercalate ws ++ t) = ws ∧
      (['/'].intercalate ws ++ t).dropWhile (!endsPath ·) = t := by
  obtain ⟨htake, hdrop⟩ := Cut.span_append (not_endsPath_of_mem hws) (t := t) fun c hc => by
    rw [ht c hc]
    rfl
  refine ⟨?_, hdrop⟩
  rw [segmentsOf, htake, splitOnP_intercalate rfl hne fun w hw c hc => (hws w hw c hc).2,
    List.map_congr_left fun w hw => Percent.encode_of_forall fun c hc => (hws w hw c hc).1,
    List.map_id']

theorem readPath_text (hne : ws ≠ []) (hws : ∀ w ∈ ws, IsSegment special w) {t : List Char}
    (ht : IsTail t) : readPath special ss (['/'].intercalate ws ++ t) = (ss ++ ws, t) := by
  obtain ⟨hsegments, hdrop⟩ := segmentsOf_text hne (fun w hw => (hws w hw).chars) ht
  rw [readPath, hsegments, hdrop, addSegments_of_isSegment hws]

theorem readPathStart_text (hne : special → ss ≠ []) (hss : ∀ w ∈ ss, IsSegment special w)
    {t : List Char} (ht : IsTail t) :
    readPathStart special ((Path.segments ss).text ++ t) = (ss, t) := by
  by_cases he : ss = []
  · subst he
    have hspecial : special = false := Bool.eq_false_iff.mpr fun hs => hne hs rfl
    have hstart : (!special && (t.isEmpty || (t.head?.map endsPath).getD false)) = true := by
      rw [hspecial]
      cases t with
      | nil => rfl
      | cons c t => exact ht c rfl
    exact if_pos hstart
  · have hstart : ¬(!special && (('/' :: (['/'].intercalate ss ++ t)).isEmpty ||
        (('/' :: (['/'].intercalate ss ++ t)).head?.map endsPath).getD false)) := by
      cases special with
      | true => exact Bool.false_ne_true
      | false => exact Bool.false_ne_true
    rw [text_segments he, List.cons_append, readPathStart, if_neg hstart]
    exact readPath_text he hss ht

theorem of_readPathStart {s rest : List Char} (h : readPathStart special s = (ss, rest)) :
    (special → ss ≠ []) ∧ ∀ w ∈ ss, IsSegment special w := by
  rw [readPathStart] at h
  split at h
  next hs =>
    cases h
    refine ⟨fun hspecial => ?_, nofun⟩
    rw [hspecial] at hs
    cases hs
  · cases h
    refine ⟨fun _ => addSegments_ne_nil (segmentsOf_ne_nil _ _), ?_⟩
    exact isSegment_of_mem_addSegments nofun (isSegmentChar_segmentsOf _)

theorem isTail_text (u : Url) : IsTail (u.queryText ++ u.fragmentText) := by
  intro c hc
  rw [queryText] at hc
  split at hc
  · cases hc
    rfl
  · rw [List.nil_append, fragmentText] at hc
    split at hc
    · cases hc
      rfl
    · cases hc

def fragmentOf : List Char → Option (List Char)
  | '#' :: f => some (Percent.encode Percent.inFragment f)
  | _ => none

theorem exists_of_fragmentOf {s f : List Char} (h : fragmentOf s = some f) :
    ∃ t, f = Percent.encode Percent.inFragment t := by
  unfold fragmentOf at h
  split at h
  · cases h
    exact ⟨_, rfl⟩
  · cases h

theorem withTail_eq (u : Url) (s : List Char) : withTail u s =
    { u with
      query := (readTail u.kind.isSpecial s).1
      fragment := (readTail u.kind.isSpecial s).2 } := rfl

/-- Nothing but the queries and fragments that some text holds. -/
structure IsTailed (u : Url) : Prop where
  query : ∀ q, u.query = some q → ∃ s, q = readQuery u.kind.isSpecial s
  fragment : ∀ f, u.fragment = some f → ∃ s, f = Percent.encode Percent.inFragment s

theorem isTailed_withTail (u : Url) (s : List Char) : IsTailed (withTail u s) := by
  constructor
  · intro q hq
    simp only [withTail, readTail] at hq
    split at hq
    · cases hq
      exact ⟨_, rfl⟩
    · cases hq
  · intro f hf
    simp only [withTail, readTail] at hf
    split at hf
    · exact exists_of_fragmentOf hf
    · exact exists_of_fragmentOf hf

namespace IsTailed

variable {u : Url} (hu : IsTailed u)
include hu

theorem query_eq {q : List Char} (hq : u.query = some q) :
    readQuery u.kind.isSpecial q = q ∧ ∀ c ∈ q, 0x20 < c.toNat ∧ (c ≠ '#' : Bool) := by
  obtain ⟨s, rfl⟩ := hu.query q hq
  cases u.kind.isSpecial with
  | true =>
    refine ⟨Percent.encode_encode (by decide), Percent.forall_mem_encode (by decide) ?_⟩
    intro c _ _ he
    rw [if_pos rfl, Percent.inSpecialQuery, Bool.or_eq_false_iff] at he
    refine ⟨Percent.lt_of_not_inQuery he.1, ?_⟩
    rw [decide_eq_true_eq]
    rintro rfl
    cases he.1
  | false =>
    refine ⟨Percent.encode_encode (by decide), Percent.forall_mem_encode (by decide) ?_⟩
    intro c _ _ he
    refine ⟨Percent.lt_of_not_inQuery he, ?_⟩
    rw [decide_eq_true_eq]
    rintro rfl
    cases he

theorem fragment_eq {f : List Char} (hf : u.fragment = some f) :
    Percent.encode Percent.inFragment f = f ∧ ∀ c ∈ f, 0x20 < c.toNat := by
  obtain ⟨s, rfl⟩ := hu.fragment f hf
  refine ⟨Percent.encode_encode (by decide), fun c hc => ?_⟩
  exact (Percent.range_of_mem_encode (fun _ => Percent.lt_of_not_inFragment) c hc).1

theorem readTail_text :
    readTail u.kind.isSpecial (u.queryText ++ u.fragmentText) = (u.query, u.fragment) := by
  have hhash : ∀ x, u.fragmentText.head? = some x → decide (x ≠ '#') = false := by
    intro x hx
    rw [fragmentText] at hx
    split at hx
    · cases hx
      rfl
    · cases hx
  have hfragment : fragmentOf u.fragmentText = u.fragment := by
    rw [fragmentText]
    cases hf : u.fragment with
    | none => rfl
    | some f => exact congrArg some (hu.fragment_eq hf).1
  rw [queryText]
  cases hq : u.query with
  | none =>
    rw [List.nil_append, readTail.eq_2]
    · exact congrArg (Prod.mk none) hfragment
    · intro t ht
      rw [ht] at hhash
      cases hhash '?' rfl
  | some q =>
    obtain ⟨hquery, hmem⟩ := hu.query_eq hq
    obtain ⟨htake, hdrop⟩ := Cut.span_append (fun c hc => (hmem c hc).2) hhash
    rw [List.cons_append, readTail, htake, hdrop, hquery]
    exact congrArg (Prod.mk (some q)) hfragment

theorem withTail_text : withTail { u with query := none, fragment := none }
    (u.queryText ++ u.fragmentText) = u := by
  have h := hu.readTail_text
  rw [withTail_eq]
  change { u with
    query := (readTail u.kind.isSpecial (u.queryText ++ u.fragmentText)).1
    fragment := (readTail u.kind.isSpecial (u.queryText ++ u.fragmentText)).2 } = u
  rw [h]

theorem lt_of_mem_text : ∀ c ∈ u.queryText ++ u.fragmentText, 0x20 < c.toNat := by
  intro c hc
  obtain hc | hc := List.mem_append.mp hc
  · rw [queryText] at hc
    split at hc
    next q hq =>
      obtain rfl | hc := List.mem_cons.mp hc
      · decide
      · exact ((hu.query_eq hq).2 c hc).1
    · cases hc
  · rw [fragmentText] at hc
    split at hc
    next f hf =>
      obtain rfl | hc := List.mem_cons.mp hc
      · decide
      · exact (hu.fragment_eq hf).2 c hc
    · cases hc

end IsTailed

end ScrapeCourier.Url.Parser
