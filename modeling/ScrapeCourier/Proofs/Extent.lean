import ScrapeCourier.Proofs.ReadFields

namespace ScrapeCourier.Http

namespace Reader

variable {ε α β : Type} {r q : Reader ε α} {f : α → Reader ε β} {a : α} {b : β} {s t : Octets}

/-- The octets that a reader takes for a value. -/
structure Takes (r : Reader ε α) (s : Octets) (a : α) : Prop where
  done : ∀ t, r (s ++ t) = .done a t
  short : ∀ p u, s = p ++ u → u ≠ [] → r p = .incomplete

def IsDelimited (r : Reader ε α) : Prop := ∀ s a t, r s = .done a t → ∃ u, s = u ++ t ∧ r.Takes u a

/-- A reader that goes on as another one behind some octets, which it cannot do without. -/
theorem Takes.prepend {w : Octets} (hw : ∀ t, r (w ++ t) = q t)
    (hshort : ∀ p u, w = p ++ u → u ≠ [] → r p = .incomplete) (h : q.Takes s a) :
    r.Takes (w ++ s) a where
  done t := by rw [List.append_assoc, hw, h.done]
  short p u hs hu := by
    obtain ⟨v, rfl, hv⟩ | ⟨v, rfl, rfl⟩ := List.append_eq_append_iff.mp hs
    · rw [hw]
      exact h.short v u hv hu
    · by_cases hv : v = []
      · subst hv
        have hq := h.short [] s rfl hu
        rwa [← hw, List.append_nil, List.append_nil] at hq
      · exact hshort p v rfl hv

theorem Takes.bind (hr : r.Takes s a) (hf : (f a).Takes t b) : (r >>= f).Takes (s ++ t) b := by
  apply Takes.prepend _ _ hf
  · intro t
    rw [bind_apply, hr.done, Reading.bind_done]
  · intro p u hs hu
    rw [bind_apply, hr.short p u hs hu]
    rfl

theorem takes_pure (a : α) : (pure a : Reader ε α).Takes [] a where
  done _ := rfl
  short _ _ hs hu := absurd (List.append_eq_nil_iff.mp hs.symm).2 hu

theorem Takes.map (h : r.Takes s a) (g : α → β) :
    Takes (fun s => (r s).map g : Reader ε β) s (g a) where
  done t := by rw [h.done, Reading.map_done]
  short p u hs hu := by
    rw [h.short p u hs hu]
    rfl

theorem Takes.cons {c : UInt8} (hc : ∀ t, r (c :: t) = q t) (hnil : r [] = .incomplete)
    (h : q.Takes s a) : r.Takes (c :: s) a := by
  apply Takes.prepend (w := [c]) hc _ h
  intro p u hs hu
  rw [((List.singleton_eq_append_iff.mp hs).resolve_right fun he => hu he.2).1]
  exact hnil

namespace IsDelimited

theorem pure (a : α) : IsDelimited (Pure.pure a : Reader ε α) := by
  intro s a' t h
  cases h
  exact ⟨[], rfl, takes_pure a⟩

theorem fail (e : ε) : IsDelimited (fail e : Reader ε α) := by
  intro s a t h
  cases h

theorem octet : IsDelimited (octet : Reader ε UInt8) := by
  intro s b t h
  cases s with
  | nil => cases h
  | cons c s =>
    cases h
    exact ⟨[b], rfl, (takes_pure b).cons (fun _ => rfl) rfl⟩

theorem bind (hr : r.IsDelimited) (hf : ∀ a, (f a).IsDelimited) : (r >>= f).IsDelimited := by
  intro s b t h
  obtain ⟨a, u, ha, hb⟩ := bind_eq_done h
  obtain ⟨v, rfl, hv⟩ := hr s a u ha
  obtain ⟨w, rfl, hw⟩ := hf a u b t hb
  exact ⟨v ++ w, (List.append_assoc v w t).symm, hv.bind hw⟩

theorem ite {c : Prop} [Decidable c] (hr : r.IsDelimited) (hq : q.IsDelimited) :
    (if c then r else q).IsDelimited := by
  split
  · exact hr
  · exact hq

theorem run (p : UInt8 → Bool) : IsDelimited (run p : Reader ε (Octets × UInt8)) := by
  intro s a t h
  induction s generalizing a with
  | nil => cases h
  | cons c s ih =>
    rw [Reader.run] at h
    split at h
    next hc =>
      cases hs : (Reader.run p s : Reading ε _) with
      | incomplete =>
        rw [hs] at h
        cases h
      | malformed e =>
        rw [hs] at h
        cases h
      | done b t' =>
        rw [hs] at h
        cases h
        obtain ⟨u, rfl, hu⟩ := ih b hs
        have hmore := hu.map fun r => (c :: r.1, r.2)
        refine ⟨c :: u, rfl, hmore.cons (fun t => ?_) rfl⟩
        rw [Reader.run, if_pos hc]
    next hc =>
      cases h
      refine ⟨[c], rfl, (takes_pure ([], c)).cons (fun t => ?_) rfl⟩
      rw [Reader.run, if_neg hc]
      rfl

theorem expect (e : ε) (want : UInt8) : IsDelimited (expect e want) :=
  octet.bind fun _ => (pure ()).ite (fail e)

theorem literal (e : ε) (w : Octets) : IsDelimited (literal e w) := by
  induction w with
  | nil => exact pure ()
  | cons b w ih => exact (expect e b).bind fun _ => ih

theorem lineEnd (e : ε) (b : UInt8) : IsDelimited (lineEnd e b) :=
  (pure ()).ite ((expect e _).ite (fail e))

end IsDelimited

end Reader

namespace Head

open Reader

theorem startLine_lf (t : Octets) : startLine (Octet.lf :: t) = startLine t := by
  rw [startLine.eq_def]
  exact if_pos rfl

theorem startLine_crlf (t : Octets) : startLine (Octet.cr :: Octet.lf :: t) = startLine t := by
  rw [startLine.eq_def]
  exact (if_neg (by decide)).trans ((if_pos rfl).trans (if_pos rfl))

theorem isDelimited_startLine : IsDelimited startLine := by
  intro s b t h
  induction s using startLine.induct with
  | case1 => cases h
  | case2 s ih =>
    rw [startLine_lf] at h
    obtain ⟨u, rfl, hu⟩ := ih h
    exact ⟨_, rfl, hu.cons startLine_lf rfl⟩
  | case3 _ => cases h
  | case4 s _ ih =>
    rw [startLine_crlf] at h
    obtain ⟨u, rfl, hu⟩ := ih h
    refine ⟨_, rfl, hu.prepend (w := [Octet.cr, Octet.lf]) startLine_crlf ?_⟩
    intro p v hs hv
    cases p with
    | nil => rfl
    | cons c p =>
      obtain ⟨rfl, ht⟩ := List.cons.inj hs
      rw [((List.singleton_eq_append_iff.mp ht).resolve_right fun he => hv he.2).1]
      rfl
  | case5 c s hc _ =>
    rw [startLine.eq_def] at h
    simp only [if_neg (show Octet.cr ≠ Octet.lf by decide), if_pos, if_neg hc] at h
    cases h
  | case6 c s hlf hcr =>
    rw [startLine_cons hlf hcr] at h
    cases h
    exact ⟨[b], rfl, (takes_pure b).cons (startLine_cons hlf hcr) rfl⟩

theorem isDelimited_methodFrom (b : UInt8) : IsDelimited (methodFrom b) := by
  apply IsDelimited.ite (.fail _)
  apply (IsDelimited.run isToken).bind
  rintro ⟨more, stop⟩
  dsimp only
  split
  · exact .ite (.pure _) (.fail _)
  · exact .fail _

theorem isDelimited_target : IsDelimited target := by
  apply (IsDelimited.run isTargetOctet).bind
  rintro ⟨octets, stop⟩
  apply IsDelimited.ite (.fail _)
  split
  · exact .pure _
  · exact .fail _

theorem isDelimited_versionFrom (b : UInt8) : IsDelimited (versionFrom b) := by
  apply IsDelimited.ite (.fail _)
  apply (IsDelimited.literal _ _).bind
  intro _
  apply IsDelimited.octet.bind
  intro minor
  exact .ite (.pure _) (.ite (.pure _) (.fail _))

theorem isDelimited_fieldLineFrom (b : UInt8) : IsDelimited (fieldLineFrom b) := by
  apply IsDelimited.ite (.fail _)
  apply (IsDelimited.run isToken).bind
  rintro ⟨more, stop⟩
  apply IsDelimited.ite (.fail _)
  apply (IsDelimited.run isFieldOctet).bind
  rintro ⟨value, stop⟩
  apply (IsDelimited.lineEnd _ _).bind
  intro _
  exact .pure _

theorem isDelimited_fieldLines (room : Nat) : IsDelimited (fieldLines room) := by
  -- By the room that is left for lines.
  induction room with
  | zero =>
    rw [fieldLines]
    apply IsDelimited.octet.bind
    intro b
    apply IsDelimited.ite
    · exact (IsDelimited.lineEnd _ _).bind fun _ => .pure _
    · exact (isDelimited_fieldLineFrom b).bind fun _ => .fail _
  | succ room ih =>
    rw [fieldLines]
    apply IsDelimited.octet.bind
    intro b
    apply IsDelimited.ite
    · exact (IsDelimited.lineEnd _ _).bind fun _ => .pure _
    · exact (isDelimited_fieldLineFrom b).bind fun _ => ih.bind fun _ => .pure _

theorem isDelimited_request : IsDelimited request := by
  apply isDelimited_startLine.bind
  intro b
  apply (isDelimited_methodFrom b).bind
  intro method
  apply isDelimited_target.bind
  intro target
  apply IsDelimited.octet.bind
  intro b
  apply (isDelimited_versionFrom b).bind
  intro version
  apply (IsDelimited.octet.bind fun b => .lineEnd _ b).bind
  intro _
  exact (isDelimited_fieldLines _).bind fun _ => .pure _

theorem isDelimited_digit : IsDelimited digit :=
  IsDelimited.octet.bind fun _ => .ite (.pure _) (.fail _)

theorem isDelimited_phrase : IsDelimited phrase := by
  apply IsDelimited.octet.bind
  intro b
  apply IsDelimited.ite
  · exact (IsDelimited.run _).bind fun _ => .lineEnd _ _
  · exact .lineEnd _ _

theorem isDelimited_response : IsDelimited response := by
  apply isDelimited_startLine.bind
  intro b
  apply (isDelimited_versionFrom b).bind
  intro version
  apply (IsDelimited.expect _ _).bind
  intro _
  apply isDelimited_digit.bind
  intro hundreds
  apply isDelimited_digit.bind
  intro tens
  apply isDelimited_digit.bind
  intro units
  apply isDelimited_phrase.bind
  intro _
  exact (isDelimited_fieldLines _).bind fun _ => .pure _

end Head

end ScrapeCourier.Http
