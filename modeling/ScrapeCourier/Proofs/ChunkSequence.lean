import ScrapeCourier.Http.Chunked
import ScrapeCourier.Proofs.Extent

namespace ScrapeCourier.Http.Chunked

open Reader

variable {s t line data coded body : Octets} {n : Nat}

theorem sizeFrom_crlf (l : SizeLine) (t : Octets) :
    sizeFrom l (Octet.cr :: Octet.lf :: t) = .done l.size t := by
  rw [sizeFrom.eq_def]
  exact (if_pos rfl).trans (if_pos rfl)

theorem sizeFrom_cons {l l' : SizeLine} {b : UInt8} (hb : b ≠ Octet.cr) (hl : l.step b = some l')
    (t : Octets) : sizeFrom l (b :: t) = sizeFrom l' t := by
  rw [sizeFrom.eq_def]
  simp only [if_neg hb, hl]

theorem isDelimited_sizeFrom (l : SizeLine) : IsDelimited (sizeFrom l) := by
  intro s n t h
  induction l, s using sizeFrom.induct with
  | case1 l => cases h
  | case2 l => cases h
  | case3 l s =>
    rw [sizeFrom_crlf] at h
    cases h
    refine ⟨[Octet.cr, Octet.lf], rfl, sizeFrom_crlf l, ?_⟩
    intro p u hs hu
    cases p with
    | nil => rfl
    | cons c p =>
      obtain ⟨rfl, ht⟩ := List.cons.inj hs
      rw [((List.singleton_eq_append_iff.mp ht).resolve_right fun he => hu he.2).1]
      rfl
  | case4 l c s hc =>
    rw [sizeFrom.eq_def] at h
    simp only [if_pos, if_neg hc] at h
    cases h
  | case5 l b s hb l' hl ih =>
    rw [sizeFrom_cons hb hl] at h
    obtain ⟨u, rfl, hu⟩ := ih h
    exact ⟨b :: u, rfl, hu.cons (sizeFrom_cons hb hl) rfl⟩
  | case6 l b s hb hl =>
    rw [sizeFrom.eq_def] at h
    simp only [if_neg hb, hl] at h
    cases h

theorem isDelimited_size : IsDelimited size := isDelimited_sizeFrom _

theorem takes_size (h : size line = .done n []) : Takes size line n := by
  obtain ⟨u, hu, htakes⟩ := isDelimited_size line n [] h
  rwa [hu, List.append_nil]

/-- Octets that are a sequence of chunks, and the body that they stand for. -/
inductive Coded : Octets → Octets → Prop
  | last {line : Octets} (h : size line = .done 0 []) : Coded line []
  | chunk {line data coded body : Octets} (h : size line = .done data.length []) (hne : data ≠ [])
    (hlt : data.length + 2 < countBound) (hmore : Coded coded body) :
    Coded (line ++ (data ++ [Octet.cr, Octet.lf]) ++ coded) (data ++ body)

theorem body_of_size (h : size s = .done n t) : Chunked.body s =
    if n = 0 then .done [] t
    else if countBound ≤ n + 2 then .malformed ()
    else if t.length < n + 2 then .incomplete
    else if (t.drop n).take 2 ≠ [Octet.cr, Octet.lf] then .malformed ()
    else (Chunked.body (t.drop (n + 2))).map (t.take n ++ ·) := by
  rw [Chunked.body]
  split
  next hs => cases h.symm.trans hs
  next hs => cases h.symm.trans hs
  next hs =>
    cases h.symm.trans hs
    rfl

theorem body_of_incomplete (h : size s = .incomplete) : Chunked.body s = .incomplete := by
  rw [Chunked.body]
  split
  next hs => rfl
  next hs => cases h.symm.trans hs
  next hs => cases h.symm.trans hs

theorem body_last (h : size line = .done 0 []) (t : Octets) :
    Chunked.body (line ++ t) = .done [] t := by
  rw [body_of_size ((takes_size h).done t), if_pos rfl]

theorem body_chunk (h : size line = .done data.length []) (hne : data ≠ [])
    (hlt : data.length + 2 < countBound) (t : Octets) :
    Chunked.body (line ++ (data ++ [Octet.cr, Octet.lf]) ++ t) =
      (Chunked.body t).map (data ++ ·) := by
  have hlen : (data ++ [Octet.cr, Octet.lf]).length = data.length + 2 := List.length_append
  rw [List.append_assoc, body_of_size ((takes_size h).done _),
    if_neg (mt List.length_eq_zero_iff.mp hne), if_neg (Nat.not_le_of_lt hlt), if_neg, if_neg,
    ← hlen, List.drop_left, List.append_assoc, List.take_left]
  · rw [List.append_assoc, List.drop_left]
    exact fun hn => hn rfl
  · rw [List.length_append, hlen]
    exact Nat.not_lt_of_le (Nat.le_add_right _ _)

theorem body_of_size_of_short (h : size s = .done n t) (hn : n ≠ 0) (hlt : n + 2 < countBound)
    (ht : t.length < n + 2) : Chunked.body s = .incomplete := by
  rw [body_of_size h, if_neg hn, if_neg (Nat.not_le_of_lt hlt), if_pos ht]

theorem body_chunk_short (h : size line = .done data.length []) (hne : data ≠ [])
    (hlt : data.length + 2 < countBound) {p u : Octets}
    (hs : line ++ (data ++ [Octet.cr, Octet.lf]) = p ++ u) (hu : u ≠ []) :
    Chunked.body p = .incomplete := by
  have hn : data.length ≠ 0 := mt List.length_eq_zero_iff.mp hne
  obtain ⟨v, rfl, hv⟩ | ⟨v, rfl, rfl⟩ := List.append_eq_append_iff.mp hs
  · apply body_of_size_of_short ((takes_size h).done v) hn hlt
    have hlen : data.length + 2 = v.length + u.length := by
      rw [← List.length_append, ← hv, List.length_append]
      rfl
    have := List.length_pos_iff.mpr hu
    omega
  · by_cases hv : v = []
    · subst hv
      rw [List.append_nil] at h
      exact body_of_size_of_short h hn hlt (Nat.succ_pos _)
    · exact body_of_incomplete ((takes_size h).short p v rfl hv)

theorem Coded.takes (h : Coded coded body) : Takes Chunked.body coded body := by
  induction h with
  | last h =>
    refine ⟨body_last h, ?_⟩
    intro p u hs hu
    exact body_of_incomplete ((takes_size h).short p u hs hu)
  | chunk h hne hlt _ ih =>
    apply Takes.prepend (body_chunk h hne hlt) _ (ih.map _)
    intro p u hs hu
    exact body_chunk_short h hne hlt hs hu

theorem take_append_drop_of_end (hend : (t.drop n).take 2 = [Octet.cr, Octet.lf]) :
    t.take n ++ [Octet.cr, Octet.lf] ++ t.drop (n + 2) = t := by
  rw [← hend, List.append_assoc, ← List.drop_drop, List.take_append_drop, List.take_append_drop]

theorem exists_coded (h : Chunked.body s = .done body t) : ∃ u, s = u ++ t ∧ Coded u body := by
  -- By the recursion of the reader, which is done at the last size line or goes on behind a chunk.
  induction s using Chunked.body.induct generalizing body with
  | case1 s hs =>
    rw [body_of_incomplete hs] at h
    cases h
  | case2 s e hs =>
    rw [Chunked.body] at h
    split at h
    next hs' => cases h
    next hs' => cases h
    next hs' => cases hs.symm.trans hs'
  | case3 s t' hs =>
    rw [body_of_size hs, if_pos rfl] at h
    cases h
    obtain ⟨line, rfl, hline⟩ := isDelimited_size s 0 t hs
    exact ⟨line, rfl, .last (by simpa using hline.done [])⟩
  | case4 s n t' hs hn hlt =>
    rw [body_of_size hs, if_neg hn, if_pos hlt] at h
    cases h
  | case5 s n t' hs hn hlt ht =>
    rw [body_of_size hs, if_neg hn, if_neg hlt, if_pos ht] at h
    cases h
  | case6 s n t' hs hn hlt ht hend =>
    rw [body_of_size hs, if_neg hn, if_neg hlt, if_neg ht, if_pos hend] at h
    cases h
  | case7 s n t' hs hn hlt ht hend ih =>
    rw [body_of_size hs, if_neg hn, if_neg hlt, if_neg ht, if_neg hend] at h
    cases hb : Chunked.body (t'.drop (n + 2)) with
    | incomplete =>
      rw [hb] at h
      cases h
    | malformed e =>
      rw [hb] at h
      cases h
    | done b t'' =>
      rw [hb] at h
      cases h
      obtain ⟨coded, hcoded, hmore⟩ := ih hb
      obtain ⟨line, rfl, hline⟩ := isDelimited_size s n t' hs
      have hlen : (t'.take n).length = n := List.length_take_of_le (Nat.le_of_add_right_le
        (Nat.le_of_not_lt ht))
      have hline' : size line = .done (t'.take n).length [] := by
        rw [hlen]
        simpa using hline.done []
      refine ⟨line ++ (t'.take n ++ [Octet.cr, Octet.lf]) ++ coded, ?_, .chunk hline' ?_ ?_ hmore⟩
      · rw [List.append_assoc, List.append_assoc, ← hcoded,
          take_append_drop_of_end (not_not.mp hend)]
      · rintro he
        rw [he] at hlen
        exact hn hlen.symm
      · rw [hlen]
        exact Nat.lt_of_not_le hlt

end ScrapeCourier.Http.Chunked
