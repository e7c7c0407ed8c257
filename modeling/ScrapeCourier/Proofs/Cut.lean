import Mathlib.Data.List.TakeWhile

namespace ScrapeCourier.Cut

variable {α : Type} {c : α} {s pre post : List α}

/-- Only the list is gone over. A list of characters is not decided by way of all that there are. -/
instance (priority := 2000) decidableForallMem (p : α → Prop) [DecidablePred p] (s : List α) :
    Decidable (∀ x ∈ s, p x) := List.decidableBAll p s

theorem dropWhile_of_forall {p : α → Bool} (h : ∀ x ∈ s, p x = false) : s.dropWhile p = s :=
  List.dropWhile_eq_self_iff.mpr fun hl => by simp [h _ (List.getElem_mem hl)]

theorem dropWhile_of_head? {p : α → Bool} (h : ∀ x, s.head? = some x → p x = false) :
    s.dropWhile p = s := by
  cases s with
  | nil => rfl
  | cons x s => exact List.dropWhile_cons_of_neg (Bool.eq_false_iff.mp (h x rfl))

theorem dropWhile_of_getLast? {p : α → Bool} (h : ∀ x, s.getLast? = some x → p x = false) :
    (s.reverse.dropWhile p).reverse = s := by
  rw [← List.head?_reverse] at h
  rw [dropWhile_of_head? h, List.reverse_reverse]

theorem takeWhile_append_of_dropWhile {p : α → Bool} (h : s.dropWhile p ≠ []) (t : List α) :
    (s ++ t).takeWhile p = s.takeWhile p := by
  rw [List.takeWhile_append, if_neg]
  intro hl
  apply h
  have hs := List.takeWhile_append_dropWhile (p := p) (l := s)
  rw [(List.takeWhile_prefix p).eq_of_length hl] at hs
  exact List.append_right_eq_self.mp hs

theorem dropWhile_append_of_dropWhile {p : α → Bool} (h : s.dropWhile p ≠ []) (t : List α) :
    (s ++ t).dropWhile p = s.dropWhile p ++ t := by
  rw [List.dropWhile_append, if_neg]
  rwa [List.isEmpty_iff]

theorem span_append {p : α → Bool} {t : List α} (hs : ∀ x ∈ s, p x)
    (ht : ∀ x, t.head? = some x → p x = false) :
    (s ++ t).takeWhile p = s ∧ (s ++ t).dropWhile p = t := by
  rw [List.takeWhile_append_of_pos hs, List.dropWhile_append_of_pos hs]
  cases t with
  | nil => exact ⟨List.append_nil s, rfl⟩
  | cons x t =>
    have hx : ¬p x := Bool.eq_false_iff.mp (ht x rfl)
    rw [List.takeWhile_cons_of_neg hx, List.dropWhile_cons_of_neg hx, List.append_nil]
    exact ⟨rfl, rfl⟩

theorem dropWhile_concat {p : α → Bool} {x : α} (s : List α) (hx : ¬p x) :
    (s ++ [x]).dropWhile p = s.dropWhile p ++ [x] := by
  rw [List.dropWhile_append]
  split
  next he => rw [List.isEmpty_iff.mp he, List.dropWhile_cons_of_neg hx, List.nil_append]
  · rfl

theorem dropWhile_of_prefix {p : α → Bool} {t : List α} (h : s <+: t) (ht : t.dropWhile p = t) :
    s.dropWhile p = s := by
  cases s with
  | nil => rfl
  | cons b s =>
    obtain ⟨u, rfl⟩ := h
    exact List.dropWhile_cons_of_neg (List.dropWhile_eq_self_iff.mp ht (Nat.succ_pos _))

theorem exists_last (h : c ∈ s) : ∃ pre post, s = pre ++ c :: post ∧ c ∉ post := by
  obtain ⟨xs, ys, hs, hn⟩ := List.eq_append_cons_of_mem (List.mem_reverse.mpr h)
  refine ⟨ys.reverse, xs.reverse, ?_, fun hc => hn (List.mem_reverse.mp hc)⟩
  rw [← List.reverse_reverse s, hs]
  simp

/-- The text before the last `c`, as it is found by counting. -/
theorem take_length_sub : (pre ++ c :: post).take ((pre ++ c :: post).length - post.length - 1) =
    pre := by
  have hl : (pre ++ c :: post).length - post.length - 1 = pre.length := by
    simp only [List.length_append, List.length_cons]
    omega
  rw [hl, List.take_left]

theorem mem_intercalate {x : α} {ls : List (List α)} (h : x ∈ [c].intercalate ls) :
    x = c ∨ ∃ l ∈ ls, x ∈ l := by
  induction ls with
  | nil => cases h
  | cons l ls ih =>
    cases ls with
    | nil =>
      rw [List.intercalate_singleton] at h
      exact .inr ⟨l, List.mem_singleton_self l, h⟩
    | cons m ls =>
      rw [List.intercalate_cons_cons, List.append_assoc] at h
      obtain h | h := List.mem_append.mp h
      · exact .inr ⟨l, List.mem_cons_self, h⟩
      · obtain h | h := List.mem_cons.mp h
        · exact .inl h
        · exact (ih h).imp_right fun ⟨k, hk, hx⟩ => ⟨k, List.mem_cons_of_mem _ hk, hx⟩

variable [DecidableEq α]

theorem ne_of_mem_reverse (h : c ∉ s) : ∀ x ∈ s.reverse, (x ≠ c : Bool) := by
  intro x hx
  rw [decide_eq_true_eq]
  rintro rfl
  exact h (List.mem_reverse.mp hx)

theorem takeWhile_reverse (pre : List α) (h : c ∉ post) :
    ((pre ++ c :: post).reverse.takeWhile (· ≠ c)).reverse = post := by
  rw [List.reverse_append, List.reverse_cons, List.append_assoc,
    List.takeWhile_append_of_pos (ne_of_mem_reverse h), List.singleton_append,
    List.takeWhile_cons_of_neg (by simp), List.append_nil, List.reverse_reverse]

theorem takeWhile_reverse_of_not_mem (h : c ∉ s) : (s.reverse.takeWhile (· ≠ c)).reverse = s := by
  rw [List.takeWhile_eq_self_iff.mpr (ne_of_mem_reverse h), List.reverse_reverse]

end ScrapeCourier.Cut
