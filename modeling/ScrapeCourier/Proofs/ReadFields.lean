import Mathlib.Data.List.DropRight
import ScrapeCourier.Exchange.Wire
import ScrapeCourier.Proofs.Checked
import ScrapeCourier.Proofs.Cut
import ScrapeCourier.Proofs.FieldLines
import ScrapeCourier.Proofs.Multimap
import ScrapeCourier.Scrape.Job

namespace ScrapeCourier

namespace Http

theorem Octets.trimBlanks_trimBlanks (s : Octets) :
    Octets.trimBlanks (Octets.trimBlanks s) = Octets.trimBlanks s := by
  have hfront : (Octets.trimBlanks s).dropWhile Octet.isBlank = Octets.trimBlanks s := by
    apply Cut.dropWhile_of_prefix (t := s.dropWhile Octet.isBlank)
    · have hs := List.dropWhile_suffix (l := (s.dropWhile Octet.isBlank).reverse) Octet.isBlank
      have hp := List.reverse_prefix.mpr hs
      rwa [List.reverse_reverse] at hp
    · exact List.dropWhile_idempotent ..
  rw [Octets.trimBlanks, hfront]
  simp only [Octets.trimBlanks]
  rw [List.reverse_reverse, List.dropWhile_idempotent]

def FieldValue.IsTrimmed (v : FieldValue) : Prop := v.octets.trimBlanks = v.octets

instance (v : FieldValue) : Decidable v.IsTrimmed :=
  inferInstanceAs (Decidable (v.octets.trimBlanks = v.octets))

theorem FieldValue.octets_of_ofOctets? {s : Octets} {v : FieldValue} (h : ofOctets? s = some v) :
    v.octets = s := by
  rw [ofOctets?] at h
  split at h
  · cases h
    rfl
  · cases h

theorem Reader.bind_eq_done {ε α β : Type} {r : Reader ε α} {f : α → Reader ε β} {s t : Octets}
    {b : β} (h : (r >>= f) s = .done b t) : ∃ a u, r s = .done a u ∧ f a u = .done b t := by
  rw [bind_apply] at h
  cases hr : r s with
  | done a u =>
    rw [hr] at h
    exact ⟨a, u, rfl, h⟩
  | incomplete =>
    rw [hr] at h
    cases h
  | malformed e =>
    rw [hr] at h
    cases h

namespace Head

open Reader

variable {s t : Octets}

theorem value_of_fieldLineFrom {b : UInt8} {l : FieldLine} (h : fieldLineFrom b s = .done l t) :
    l.value.trimBlanks = l.value := by
  rw [fieldLineFrom, ite_run] at h
  split at h
  · cases h
  obtain ⟨⟨name, stop⟩, u, -, h⟩ := bind_eq_done h
  simp only [ite_run] at h
  split at h
  · cases h
  obtain ⟨⟨value, stop'⟩, u', -, h⟩ := bind_eq_done h
  obtain ⟨-, u'', -, h⟩ := bind_eq_done h
  cases h
  exact Octets.trimBlanks_trimBlanks value

theorem value_of_fieldLines {room : Nat} {ls : List FieldLine} (h : fieldLines room s = .done ls t) :
    ∀ l ∈ ls, l.value.trimBlanks = l.value := by
  -- By the room that is left for lines, one less behind each of them.
  induction room generalizing s ls with
  | zero =>
    rw [fieldLines] at h
    obtain ⟨b, u, -, h⟩ := bind_eq_done h
    rw [ite_run] at h
    split at h
    · obtain ⟨-, u', -, h⟩ := bind_eq_done h
      cases h
      intro l hl
      cases hl
    · obtain ⟨line, u', -, h⟩ := bind_eq_done h
      cases h
  | succ k ih =>
    rw [fieldLines] at h
    obtain ⟨b, u, -, h⟩ := bind_eq_done h
    rw [ite_run] at h
    split at h
    · obtain ⟨-, u', -, h⟩ := bind_eq_done h
      cases h
      intro l hl
      cases hl
    · obtain ⟨line, u', hline, h⟩ := bind_eq_done h
      obtain ⟨ls', u'', hls, h⟩ := bind_eq_done h
      cases h
      intro l hl
      obtain rfl | hl := List.mem_cons.mp hl
      · exact value_of_fieldLineFrom hline
      · exact ih hls l hl

end Head

namespace Fields

variable {h k : Fields} {n : FieldName} {v : FieldValue}

theorem groups_append_of_has (hn : h.has n = true) : ∃ gs₁ g gs₂, h.groups = gs₁ ++ g :: gs₂ ∧
    g.name = n ∧ (h.append n v).groups = gs₁ ++ { g with more := g.more ++ [v] } :: gs₂ := by
  obtain ⟨g, hg, hgn⟩ := List.any_eq_true.mp hn
  obtain ⟨gs₁, gs₂, hgs⟩ := List.append_of_mem hg
  have hgn := of_decide_eq_true hgn
  have hnodup := h.nodup
  rw [hgs, List.map_append, List.map_cons, List.nodup_append, List.nodup_cons] at hnodup
  refine ⟨gs₁, g, gs₂, hgs, hgn, ?_⟩
  have hother (gs : List FieldGroup) (hne : ∀ g' ∈ gs, g'.name ≠ n) :
      gs.map (fun g => if g.name = n then { g with more := g.more ++ [v] } else g) = gs := by
    refine (List.map_congr_left fun g' hg' => ?_).trans (List.map_id gs)
    exact if_neg (hne g' hg')
  rw [append, groups_upsert_of_has hn, hgs, List.map_append, List.map_cons, if_pos hgn, hother,
    hother]
  · intro g' hg' he
    exact hnodup.2.1.1 (List.mem_map.mpr ⟨g', hg', he.trans hgn.symm⟩)
  · intro g' hg' he
    exact hnodup.2.2 g'.name (List.mem_map_of_mem hg') g.name List.mem_cons_self
      (he.trans hgn.symm)

theorem perm_toList_append : (h.append n v).toList.Perm (⟨n, v⟩ :: h.toList) := by
  cases hn : h.has n with
  | false =>
    rw [toList_append_of_not_has hn]
    exact List.perm_append_singleton _ _
  | true =>
    obtain ⟨gs₁, g, gs₂, hgs, rfl, happend⟩ := groups_append_of_has (v := v) hn
    have hfields : FieldGroup.fields { g with more := g.more ++ [v] } = g.fields ++ [⟨g.name, v⟩] := by
      simp [FieldGroup.fields, FieldGroup.values]
    rw [toList, toList, happend, hgs, List.flatMap_append, List.flatMap_append, List.flatMap_cons,
      List.flatMap_cons, hfields, List.append_assoc g.fields, ← List.append_assoc,
      List.singleton_append, ← List.append_assoc]
    exact List.perm_middle

theorem perm_toList_ofList (fs : List Field) : (ofList fs).toList.Perm fs := by
  have hfold (fs : List Field) (h : Fields) :
      (fs.foldl (fun h f => h.append f.name f.value) h).toList.Perm (h.toList ++ fs) := by
    induction fs generalizing h with
    | nil =>
      rw [List.append_nil]
      exact .refl _
    | cons f fs ih =>
      apply (ih (h.append f.name f.value)).trans
      apply (perm_toList_append.append_right fs).trans
      exact List.perm_middle.symm
  exact hfold fs empty

theorem of_ofLines {ls : List FieldLine} (h : ofLines ls = .ok k) :
    k.toList.length = ls.length ∧ ∀ f ∈ k.toList, ∃ l ∈ ls, f.value.octets = l.value := by
  obtain ⟨fs, hfs, h⟩ := bind_eq_ok.mp h
  cases h
  have hall := forall₂_of_mapM_eq_ok hfs
  have hperm := perm_toList_ofList fs
  refine ⟨hperm.length_eq.trans hall.length_eq.symm, ?_⟩
  intro f hf
  obtain ⟨l, hl, hread⟩ := exists_of_forall₂ hall (hperm.mem_iff.mp hf)
  refine ⟨l, hl, ?_⟩
  rw [FieldLine.field] at hread
  split at hread
  · cases hread
  · cases hread
  next hv =>
    cases hread
    exact FieldValue.octets_of_ofOctets? hv

end Fields

deriving instance DecidableEq for Fields, FieldLine, RequestHead, Request

theorem Head.value_of_request {s t : Octets} {head : RequestHead} (h : request s = .done head t) :
    ∀ l ∈ head.lines, l.value.trimBlanks = l.value := by
  rw [request] at h
  obtain ⟨b, s₁, -, h⟩ := Reader.bind_eq_done h
  obtain ⟨method, s₂, -, h⟩ := Reader.bind_eq_done h
  obtain ⟨target, s₃, -, h⟩ := Reader.bind_eq_done h
  obtain ⟨b', s₄, -, h⟩ := Reader.bind_eq_done h
  obtain ⟨version, s₅, -, h⟩ := Reader.bind_eq_done h
  obtain ⟨-, s₆, -, h⟩ := Reader.bind_eq_done h
  obtain ⟨ls, s₇, hls, h⟩ := Reader.bind_eq_done h
  cases h
  exact value_of_fieldLines hls

theorem Head.value_of_response {s t : Octets} {head : ResponseHead}
    (h : response s = .done head t) : ∀ l ∈ head.lines, l.value.trimBlanks = l.value := by
  rw [response] at h
  obtain ⟨b, s₁, -, h⟩ := Reader.bind_eq_done h
  obtain ⟨version, s₂, -, h⟩ := Reader.bind_eq_done h
  obtain ⟨-, s₃, -, h⟩ := Reader.bind_eq_done h
  obtain ⟨hundreds, s₄, -, h⟩ := Reader.bind_eq_done h
  obtain ⟨tens, s₅, -, h⟩ := Reader.bind_eq_done h
  obtain ⟨units, s₆, -, h⟩ := Reader.bind_eq_done h
  obtain ⟨-, s₇, -, h⟩ := Reader.bind_eq_done h
  obtain ⟨ls, s₈, hls, h⟩ := Reader.bind_eq_done h
  cases h
  exact value_of_fieldLines hls

theorem eq_done_of_readHead {α : Type} {r : Head.HeadReader α} {s t : Octets} {head : α}
    (h : readHead r s = .ok (head, t)) : r s = .done head t := by
  rw [readHead] at h
  split at h
  next hr =>
    cases h
    exact hr
  · cases h
  · cases h

theorem Request.of_decode {raw : Octets} {r : Request} (h : decode raw = .ok r) : ∃ head t f,
    readHead Head.request raw = .ok (head, t) ∧ Fields.ofLines head.lines = .ok r.fields ∧
      Target.resolve head.target r.fields = .ok r.target ∧
      Framing.ofFields .absent r.fields = .ok f ∧ f.read t = .ok r.body ∧
      r = ⟨head.method, r.target, head.version, r.fields, r.body⟩ := by
  obtain ⟨⟨head, t⟩, hhead, h⟩ := bind_eq_ok.mp h
  obtain ⟨fields, hfields, h⟩ := bind_eq_ok.mp h
  obtain ⟨target, htarget, h⟩ := bind_eq_ok.mp h
  obtain ⟨f, hf, h⟩ := bind_eq_ok.mp h
  obtain ⟨body, hbody, h⟩ := bind_eq_ok.mp h
  cases h
  exact ⟨head, t, f, hhead, hfields, htarget, hf, hbody, rfl⟩

theorem Response.of_decode {raw : Octets} {r : Response} (h : decode raw = .ok r) : ∃ head t f,
    readHead Head.response raw = .ok (head, t) ∧ Status.ofNat? head.code = some r.status ∧
      Fields.ofLines head.lines = .ok r.fields ∧ Framing.ofFields .toEnd r.fields = .ok f ∧
      f.read t = .ok r.body ∧ r = ⟨r.status, head.version, r.fields, r.body⟩ := by
  obtain ⟨⟨head, t⟩, hhead, h⟩ := bind_eq_ok.mp h
  dsimp only at h
  split at h
  case h_2 => cases h
  next status hstatus =>
  obtain ⟨_, hok, h⟩ := bind_eq_ok.mp h
  cases hok
  obtain ⟨fields, hfields, h⟩ := bind_eq_ok.mp h
  obtain ⟨f, hf, h⟩ := bind_eq_ok.mp h
  obtain ⟨body, hbody, h⟩ := bind_eq_ok.mp h
  cases h
  exact ⟨head, t, f, hhead, hstatus, hfields, hf, hbody, rfl⟩

theorem Fields.isTrimmed_of_ofLines {ls : List FieldLine} {k : Fields} (h : ofLines ls = .ok k)
    (hls : ∀ l ∈ ls, l.value.trimBlanks = l.value) : ∀ f ∈ k.toList, f.value.IsTrimmed := by
  intro f hf
  obtain ⟨l, hl, he⟩ := (of_ofLines h).2 f hf
  rw [FieldValue.IsTrimmed, he]
  exact hls l hl

theorem Request.isTrimmed_of_decode {raw : Octets} {r : Request} (h : decode raw = .ok r) :
    ∀ f ∈ r.fields.toList, f.value.IsTrimmed := by
  obtain ⟨head, t, f, hhead, hfields, -⟩ := of_decode h
  exact Fields.isTrimmed_of_ofLines hfields (Head.value_of_request (eq_done_of_readHead hhead))

theorem Response.isTrimmed_of_decode {raw : Octets} {r : Response} (h : decode raw = .ok r) :
    ∀ f ∈ r.fields.toList, f.value.IsTrimmed := by
  obtain ⟨head, t, f, hhead, -, hfields, -⟩ := of_decode h
  exact Fields.isTrimmed_of_ofLines hfields (Head.value_of_response (eq_done_of_readHead hhead))

theorem Fields.exists_of_mem_values {h : Fields} {n : FieldName} {v : FieldValue}
    (hv : v ∈ h.values n) : ∃ f ∈ h.toList, f.value = v := by
  rw [values_eq] at hv
  obtain ⟨f, hf, rfl⟩ := List.mem_map.mp hv
  exact ⟨f, (List.mem_filter.mp hf).1, rfl⟩

theorem Fields.exists_of_first? {h : Fields} {n : FieldName} {v : FieldValue}
    (hv : h.first? n = some v) : ∃ f ∈ h.toList, f.value = v :=
  exists_of_mem_values (List.mem_of_mem_head? (Option.mem_def.mpr hv))

end Http

open Http

theorem Job.id_of_decode {raw : Octets} {j : Job} (h : decode raw = .ok j) :
    j.id = (j.fields.first? .id).getD .empty ∧ j.id.IsTrimmed := by
  obtain ⟨r, hr, h⟩ := bind_eq_ok.mp h
  obtain ⟨url, -, h⟩ := bind_eq_ok.mp (mapError_eq_ok.mp h)
  cases h
  refine ⟨rfl, ?_⟩
  change FieldValue.IsTrimmed ((r.fields.first? .id).getD .empty)
  cases hv : r.fields.first? .id with
  | none => rfl
  | some v =>
    obtain ⟨f, hf, rfl⟩ := Fields.exists_of_first? hv
    exact Request.isTrimmed_of_decode (mapError_eq_ok.mp hr) f hf

/-- An answer as a client takes it, with no more fields than it takes. -/
def Reply.InLimit : Reply → Prop
  | .answer a => a.fields.toList.length ≤ Wire.maxFields
  | .lost _ => True

/-- An answer as a client reads it off the wire. -/
def Reply.IsRead : Reply → Prop
  | .answer a => a.fields.toList.length ≤ Wire.maxFields ∧ ∀ f ∈ a.fields.toList, f.value.IsTrimmed
  | .lost _ => True

theorem Reply.IsRead.inLimit {r : Reply} (h : r.IsRead) : r.InLimit := by
  cases r with
  | answer a => exact h.1
  | lost kind => trivial

theorem Wire.isRead_readFrom {m : Method} {fuel : Nat} {s : Octets} {a : Answer TransportKind}
    (h : readFrom m fuel s = some a) : (Reply.answer a).IsRead := by
  induction fuel generalizing s with
  | zero => cases h
  | succ fuel ih =>
    rw [readFrom] at h
    obtain ⟨⟨head, rest⟩, hhead, h⟩ := Option.bind_eq_some_iff.mp h
    obtain ⟨status, -, h⟩ := Option.bind_eq_some_iff.mp h
    obtain ⟨fields, hfields, h⟩ := Option.bind_eq_some_iff.mp h
    split at h
    · cases h
    next hroom =>
    split at h
    · exact ih h
    · obtain ⟨framing, -, h⟩ := Option.bind_eq_some_iff.mp h
      cases h
      have hlines := eq_ok_of_toOption hfields
      refine ⟨(Fields.of_ofLines hlines).1.trans_le (Nat.le_of_not_lt hroom), ?_⟩
      exact Fields.isTrimmed_of_ofLines hlines
        (Head.value_of_response (eq_done_of_readHead (eq_ok_of_toOption hhead)))

theorem Wire.isRead_reply (m : Method) (s : Octets) : (reply m s).IsRead := by
  rw [reply]
  split
  next h => exact isRead_readFrom h
  · trivial

theorem Wire.inLimit_reply (m : Method) (s : Octets) : (reply m s).InLimit :=
  (isRead_reply m s).inLimit

end ScrapeCourier
