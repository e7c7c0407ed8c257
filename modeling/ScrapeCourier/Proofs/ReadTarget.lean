import ScrapeCourier.Proofs.ReadFields
import ScrapeCourier.Proofs.RequestRoundTrip

namespace ScrapeCourier.Http

namespace PathQuery

variable {s : List Char} {p : PathQuery} {c : Char}

theorem text_eq (p : PathQuery) : p.text = p.path ++ p.query.elim [] ('?' :: ·) := by
  rw [text]
  cases p.query <;> rfl

def withSlash (s : List Char) : List Char := if s.head? = some '/' then s else '/' :: s

/-- Everything is read up to a hash. -/
theorem text_of_read (h : read s = .ok p) : p.text = (withSlash s).takeWhile (· ≠ '#') := by
  unfold read at h
  extract_lets path₀ rest path query at h
  split at h
  case isFalse => cases h
  next hvalid =>
  cases h
  have hs : path₀ ++ rest = s := List.takeWhile_append_dropWhile
  have hrest : ∀ c, rest.head? = some c → c = '?' ∨ c = '#' := by
    intro c hc
    have hend := List.head?_dropWhile_not (fun c => c ≠ '?' && c ≠ '#') s
    rw [show s.dropWhile _ = rest from rfl, hc] at hend
    simpa [or_iff_not_imp_left] using hend
  have hquery : query.elim [] ('?' :: ·) = rest.takeWhile (· ≠ '#') := by
    cases hq : rest with
    | nil => simp [query, hq]
    | cons c q =>
      obtain rfl | rfl := hrest c (by rw [hq]; rfl)
      · simp [query, hq]
      · simp [query, hq]
  rw [text_eq]
  change path ++ query.elim [] ('?' :: ·) = _
  rw [hquery]
  -- The slash is put in front only where there is no path, and then a mark comes first.
  by_cases hempty : path₀.isEmpty
  · have hpath : path = ['/'] := if_pos hempty
    have hall : rest = s := by
      rw [← hs, List.isEmpty_iff.mp hempty, List.nil_append]
    have hfirst : s.head? ≠ some '/' := by
      intro hc
      rw [← hall] at hc
      exact absurd (hrest '/' hc) (by decide)
    rw [hpath, hall, withSlash, if_neg hfirst, List.takeWhile_cons_of_pos (by decide)]
    rfl
  · have hpath : path = path₀ := if_neg hempty
    have hin : ∀ c ∈ path₀, decide (c ≠ '#') = true := by
      intro c hc
      have hc := List.mem_takeWhile_imp hc
      rw [Bool.and_eq_true] at hc
      exact hc.2
    have hfirst := hvalid.1
    rw [hpath] at hfirst ⊢
    rw [← hs, withSlash, if_pos, List.takeWhile_append_of_pos hin]
    rw [List.head?_append, hfirst]
    rfl

end PathQuery

namespace Target

variable {s : List Char} {t : Target}

theorem head?_of_parse (h : parse s = .ok t) (hs : s.head? ≠ some '/') :
    t.text.head? ≠ some '/' := by
  obtain ⟨hslash, -⟩ | rfl | ⟨a, rfl, rfl⟩ | ⟨scheme, a, p, rfl, hr⟩ := parse_cases h
  · exact absurd hslash hs
  · decide
  · exact hs
  · have hscheme := scheme.all_text hr
    rw [text]
    cases hname : scheme.text with
    | nil => exact fun he => absurd (Option.some.inj he) (by decide)
    | cons c name =>
      intro he
      cases Option.some.inj he
      rw [hname, List.all_cons] at hscheme
      cases hscheme

end Target

theorem Target.exists_parse_of_resolve {s : List Char} {k : Fields} {t : Target}
    (h : resolve s k = .ok t) : ∃ u, parse u = .ok t ∧ u.head? ≠ some '/' := by
  rw [resolve] at h
  split at h
  next hs => exact ⟨s, mapError_eq_ok.mp h, hs⟩
  · split at h
    · refine ⟨_, mapError_eq_ok.mp h, ?_⟩
      exact fun he => absurd (Option.some.inj he) (by decide)
    · cases h

namespace Request

variable {raw : Octets} {r : Request}

theorem exists_parse_of_decode (h : decode raw = .ok r) :
    ∃ u, Target.parse u = .ok r.target ∧ u.head? ≠ some '/' := by
  obtain ⟨head, t, f, -, -, htarget, -⟩ := of_decode h
  exact Target.exists_parse_of_resolve htarget

theorem isRead_of_decode (h : decode raw = .ok r) : r.target.IsRead := by
  obtain ⟨u, hu, -⟩ := exists_parse_of_decode h
  exact ⟨u, hu⟩

theorem head?_of_decode (h : decode raw = .ok r) : r.target.text.head? ≠ some '/' := by
  obtain ⟨u, hu, hs⟩ := exists_parse_of_decode h
  exact Target.head?_of_parse hu hs

end Request

end ScrapeCourier.Http
