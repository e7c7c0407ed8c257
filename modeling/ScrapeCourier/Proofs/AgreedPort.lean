import ScrapeCourier.Proofs.PreparedPort

namespace ScrapeCourier

open Http

theorem Http.Authority.port_of_text {a : Authority} {pre digits : List Char}
    (ha : a.text = pre ++ ':' :: digits) (hne : digits ≠ []) (hall : digits.all Ascii.isDigit)
    (hlt : Unsigned.value digits < 65536) : a.port? = some (Unsigned.value digits) := by
  have hcolon : ':' ∉ digits := by
    intro hc
    have := List.all_eq_true.mp hall ':' hc
    cases this
  have hafter : Authority.afterColon? a.text = some digits := by
    rw [Authority.afterColon?, if_pos (List.contains_iff_mem.mpr (by simp [ha])), ha,
      Cut.takeWhile_reverse _ hcolon]
  rw [Authority.port?, hafter, Option.bind_some, Unsigned.read?_of_all_isDigit hall,
    Unsigned.digits?, hall, List.isEmpty_eq_false_iff.mpr hne]
  simp [hlt]

namespace Url.Parser

theorem exists_digits_of_readPort {scheme s unread : List Char} {q : Nat} (hb : '\\' ∉ s)
    (h : readPort scheme ((splitPort false s).2.drop 1) = .ok (some q, unread)) :
    ∃ pre digits, s = pre ++ ':' :: digits ∧ digits ≠ [] ∧ digits.all Ascii.isDigit ∧
      Unsigned.value digits < 65536 := by
  have hs := splitPort_append false s
  obtain hnil | ⟨p, hp⟩ := splitPort_snd false s
  · rw [hnil] at h
    obtain ⟨-, -, hport⟩ := digits_of_readPort (List.not_mem_nil) h
    cases hport.trans (if_pos (.inl rfl))
  · rw [hp, List.drop_one, List.tail_cons] at h
    rw [hp] at hs
    have hbp : '\\' ∉ p := by
      intro hc
      apply hb
      rw [← hs]
      exact List.mem_append_right _ (List.mem_cons_of_mem _ hc)
    obtain ⟨hall, hlt, hport⟩ := digits_of_readPort hbp h
    refine ⟨_, p, hs.symm, ?_, hall, hlt⟩
    rintro rfl
    cases hport.trans (if_pos (.inl rfl))

theorem port_of_readServer_of_none {scheme t : List Char} {a : Http.Authority} {u : Url}
    (ht : t = [] ∨ t.head? = some '/') (hq : a.port? = none)
    (h : readServer scheme (a.text ++ t) = .ok u) : u.port = none := by
  simp only [readServer] at h
  obtain ⟨⟨b, rest⟩, hb, h⟩ := bind_eq_ok.mp h
  cases h
  change b.port = none
  obtain ⟨unread, hparts, -⟩ := of_readAuthority hb
  have hr := hparts.port
  rw [takeWhile_inAuthority scheme a.all_inAuthority ht] at hr
  cases hport : b.port with
  | none => rfl
  | some q =>
    obtain ⟨user, huser⟩ := serverOf_suffix a.text
    have hslash : '\\' ∉ serverOf a.text := fun hc => Target.ne_backslash_of_inAuthority
      (List.all_eq_true.mp a.all_inAuthority _ ((serverOf_suffix a.text).subset hc)) rfl
    rw [hport] at hr
    obtain ⟨pre, digits, hcut, hne, hall, hlt⟩ := exists_digits_of_readPort hslash hr
    have htext : a.text = user ++ pre ++ ':' :: digits := by
      rw [List.append_assoc, ← hcut, huser]
    cases hq.symm.trans (a.port_of_text htext hne hall hlt)

end Url.Parser

theorem Url.port_of_parse_of_none {scheme : Scheme} {a : Http.Authority} {p : PathQuery} {u : Url}
    (hs : scheme.IsRead) (hq : a.port? = none)
    (h : parse (Target.absolute scheme a p).text = .ok u) : u.port = none := by
  obtain hr | hf := Url.readServer_of_parse hs h
  · exact Url.Parser.port_of_readServer_of_none (.inr p.head?_text) hq hr
  · obtain ⟨host, ss, rest, rfl⟩ := Url.Parser.eq_of_readFileServer hf
    rfl

/-- Whatever the authority of a target with a scheme holds, the port that the job names is the one
that its URL is on, and the URL holds none if the job names none. -/
theorem Job.port_agrees {raw : Octets} {r : Request} {j : Job} {scheme : Scheme} {a : Authority}
    {p : PathQuery} (hr : Request.decode raw = .ok r) (hj : Job.ofRequest r = .ok j)
    (ht : r.target = .absolute scheme a p) :
    (∀ q, j.port = some q → j.url.effectivePort? = some q) ∧ (j.port = none → j.url.port = none) := by
  constructor
  · intro q hq
    rw [Url.effectivePort?, j.port_of_absolute hr hj hq ht]
    split
    next hd => exact hd
    · rfl
  · intro hnone
    have hread := Request.isRead_of_decode hr
    obtain ⟨url, hu, hj⟩ := bind_eq_ok.mp hj
    cases hj
    rw [ht] at hu hread
    have hq : a.port? = none := by
      rw [← hnone]
      simp only [ht]
      rfl
    exact Url.port_of_parse_of_none (Target.isRead_scheme hread) hq hu

namespace AuthorityExample

def raw : Octets := Octets.ofAscii "GET http://u:1@[::1]:0080/stats HTTP/1.1\r\n\r\n"

def request : Request where
  method := .get
  target := .absolute .http ⟨"u:1@[::1]:0080".toList, by decide, by rfl⟩
    ⟨"/stats".toList, none, by decide, by decide, by decide⟩
  version := .http11
  fields := .empty
  body := []

def job : Job where
  id := .empty
  method := .get
  url.scheme := "http".toList
  url.username := "u".toList
  url.password := some "1".toList
  url.host := some (.ipv6 ⟨#v[0, 0, 0, 0, 0, 0, 0, 1]⟩)
  url.path := .segments ["stats".toList]
  port := some 80
  fields := .empty
  body := []

end AuthorityExample

open AuthorityExample in
theorem Job.port_agrees_address :
    Request.decode raw = .ok request ∧ Job.ofRequest request = .ok job ∧ job.port = some 80 ∧
      job.url.port = none ∧ job.url.effectivePort? = some 80 := by
  have hr : Request.decode raw = .ok request := eq_ok_of_toOption (by decide +kernel)
  have hj : Job.ofRequest request = .ok job := eq_ok_of_toOption (by decide +kernel)
  exact ⟨hr, hj, rfl, rfl, (Job.port_agrees hr hj rfl).1 80 rfl⟩

end ScrapeCourier
