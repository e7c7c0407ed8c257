import ScrapeCourier.Proofs.ChunkSequence
import ScrapeCourier.Relay.Poll

namespace ScrapeCourier

namespace Http

def FramingError.isShort : FramingError → Bool
  | .incomplete | .truncated .. => true
  | _ => false

namespace Framing

variable {f other : Framing} {k : Fields} {s t coded body : Octets}

/-- The octets that are taken for a body, by how it is framed. -/
inductive Spans : Framing → Octets → Octets → Prop
  | chunked {coded body : Octets} (h : Chunked.Coded coded body) : Spans .chunked coded body
  | counted (body : Octets) : Spans (.counted body.length) body body
  | absent : Spans .absent [] []

theorem exists_spans (hf : f ≠ .toEnd) (h : f.read s = .ok body) :
    ∃ coded t, s = coded ++ t ∧ f.Spans coded body := by
  cases f with
  | chunked =>
    simp only [read] at h
    split at h
    next t hb =>
      cases h
      obtain ⟨coded, hs, hc⟩ := Chunked.exists_coded hb
      exact ⟨coded, t, hs, .chunked hc⟩
    · cases h
    · cases h
  | counted n =>
    rw [read] at h
    split at h
    · cases h
    next hn =>
      cases h
      refine ⟨s.take n, s.drop n, (List.take_append_drop n s).symm, ?_⟩
      have hlen : (s.take n).length = n := List.length_take_of_le (Nat.le_of_not_lt hn)
      have hspans := Spans.counted (s.take n)
      rwa [hlen] at hspans
  | toEnd => exact absurd rfl hf
  | absent =>
    cases h
    exact ⟨[], s, rfl, .absent⟩

theorem Spans.read_append (h : f.Spans coded body) (t : Octets) :
    f.read (coded ++ t) = .ok body := by
  cases h with
  | chunked h => simp only [read, h.takes.done]
  | counted => simp [read]
  | absent => rfl

theorem Spans.read_short (h : f.Spans coded body) {p u : Octets} (hs : coded = p ++ u)
    (hu : u ≠ []) : ∃ e : FramingError, e.isShort ∧ f.read p = .error e := by
  cases h with
  | chunked h => exact ⟨.incomplete, rfl, by simp only [read, h.takes.short p u hs hu]⟩
  | counted =>
    subst hs
    have hlt : p.length < (p ++ u).length := by
      rw [List.length_append]
      exact Nat.lt_add_of_pos_right (List.length_pos_iff.mpr hu)
    exact ⟨.truncated (p ++ u).length p.length, rfl, by rw [read, if_pos hlt]⟩
  | absent => exact absurd (List.append_eq_nil_iff.mp hs.symm).2 hu

theorem ofFields_cases (h : ofFields other k = .ok f) :
    (isChunked k ∧ f = .chunked) ∨ (k.has .contentLength ∧ ∃ n, f = .counted n) ∨
      (isChunked k = false ∧ k.has .contentLength = false ∧ f = other) := by
  rw [ofFields] at h
  split at h
  next hc =>
    cases h
    exact .inl ⟨hc, rfl⟩
  next hc =>
    split at h
    next hnone =>
      cases h
      exact .inr (.inr ⟨Bool.eq_false_iff.mpr hc, Fields.first?_eq_none_iff.mp hnone, rfl⟩)
    next v hv =>
      split at h
      next n _ =>
        cases h
        refine .inr (.inl ⟨?_, n, rfl⟩)
        rw [← Bool.not_eq_false, ← Fields.first?_eq_none_iff, hv]
        exact nofun
      · cases h

end Framing

variable {α β : Type} {decode : Octets → Except FramingError α} {raw s t : Octets} {a : α}

/-- Octets that are read as a message whatever follows, and of which none can be missing. -/
structure Delimits (decode : Octets → Except FramingError α) (s : Octets) (a : α) : Prop where
  whole : ∀ t, decode (s ++ t) = .ok a
  short : ∀ p u, s = p ++ u → u ≠ [] → ∃ e : FramingError, e.isShort ∧ decode p = .error e

/-- A message ends by itself after `n` octets: it is the same whatever follows them, and fewer of
them are too few. -/
def EndsAt (decode : Octets → Except FramingError α) (raw : Octets) (a : α) (n : Nat) : Prop :=
  n ≤ raw.length ∧ (∀ s, decode (raw.take n ++ s) = .ok a) ∧
    ∀ m < n, ∃ e : FramingError, e.isShort ∧ decode (raw.take m) = .error e

def Fills (reader : Head.HeadReader β) (f : Framing) (body s : Octets) : Prop :=
  ∃ head b coded, s = head ++ coded ∧ reader head = .done b [] ∧ f.Spans coded body

theorem Delimits.endsAt (h : Delimits decode s a) (t : Octets) :
    EndsAt decode (s ++ t) a s.length := by
  refine ⟨?_, ?_, ?_⟩
  · rw [List.length_append]
    exact Nat.le_add_right _ _
  · rw [List.take_left]
    exact h.whole
  · intro m hm
    rw [List.take_append_of_le_length (Nat.le_of_lt hm)]
    apply h.short _ _ (List.take_append_drop m s).symm
    exact mt List.drop_eq_nil_iff.mp (Nat.not_le_of_lt hm)

/-- What is read of a message depends on what its head is read as and on what follows the head. -/
structure Reads (decode : Octets → Except FramingError α) (reader : Head.HeadReader β)
    (make : Octets → α) (f : Framing) (b : β) : Prop where
  done : ∀ s t, reader s = .done b t → decode s = (f.read t).map make
  short : ∀ s, reader s = .incomplete → decode s = .error .incomplete

variable {reader : Head.HeadReader β} {make : Octets → α} {f : Framing} {b : β}
  {head coded body : Octets}

theorem Reads.delimits (h : Reads decode reader make f b) (hr : reader.Takes head b)
    (hb : f.Spans coded body) : Delimits decode (head ++ coded) (make body) where
  whole t := by
    rw [List.append_assoc, h.done _ _ (hr.done _), hb.read_append]
    rfl
  short p u hs hu := by
    obtain ⟨v, rfl, hv⟩ | ⟨v, rfl, rfl⟩ := List.append_eq_append_iff.mp hs
    · obtain ⟨e, he, hread⟩ := hb.read_short hv hu
      refine ⟨e, he, ?_⟩
      rw [h.done _ _ (hr.done _), hread]
      rfl
    · by_cases hv : v = []
      · subst hv
        obtain ⟨e, he, hread⟩ := hb.read_short (p := []) rfl hu
        refine ⟨e, he, ?_⟩
        rw [List.append_nil] at hr
        have hnil := hr.done []
        rw [List.append_nil] at hnil
        rw [h.done _ _ hnil, hread]
        rfl
      · exact ⟨.incomplete, rfl, h.short p (hr.short p v rfl hv)⟩

theorem Reads.exists_endsAt (h : Reads decode reader make f b) (hr : reader.IsDelimited)
    (hb : reader raw = .done b t) (hf : f ≠ .toEnd) (hread : f.read t = .ok body) :
    ∃ n, Fills reader f body (raw.take n) ∧ EndsAt decode raw (make body) n := by
  obtain ⟨head, rfl, htakes⟩ := hr raw b t hb
  obtain ⟨coded, t, rfl, hspans⟩ := Framing.exists_spans hf hread
  refine ⟨(head ++ coded).length, ?_, ?_⟩
  · rw [← List.append_assoc, List.take_left]
    refine ⟨head, b, coded, rfl, ?_, hspans⟩
    have hnil := htakes.done []
    rwa [List.append_nil] at hnil
  · rw [← List.append_assoc]
    exact (h.delimits htakes hspans).endsAt t

theorem Request.exists_head {r : Request} (h : Request.decode raw = .ok r) :
    ∃ b t f, Head.request raw = .done b t ∧ Framing.ofFields .absent r.fields = .ok f ∧
      f.read t = .ok r.body ∧ Reads Request.decode Head.request ({ r with body := · }) f b := by
  obtain ⟨b, t, f, hhead, hfields, htarget, hf, hbody, hr⟩ := of_decode h
  refine ⟨b, t, f, eq_done_of_readHead hhead, hf, hbody, fun s t hs => ?_, fun s hs => ?_⟩
  · have hread : readHead Head.request s = .ok (b, t) := by rw [readHead, hs]
    have hdecode : Request.decode s =
        (f.read t >>= fun body => .ok ⟨b.method, r.target, b.version, r.fields, body⟩) := by
      simp only [Request.decode, hread, hfields, htarget, hf, bind, Except.bind]
      rfl
    rw [hdecode, hr]
    cases f.read t with
    | ok body => rfl
    | error e => rfl
  · rw [Request.decode, readHead, hs]
    rfl

theorem Response.exists_head {r : Response} (h : Response.decode raw = .ok r) :
    ∃ b t f, Head.response raw = .done b t ∧ Framing.ofFields .toEnd r.fields = .ok f ∧
      f.read t = .ok r.body ∧ Reads Response.decode Head.response ({ r with body := · }) f b := by
  obtain ⟨b, t, f, hhead, hstatus, hfields, hf, hbody, hr⟩ := of_decode h
  refine ⟨b, t, f, eq_done_of_readHead hhead, hf, hbody, fun s t hs => ?_, fun s hs => ?_⟩
  · have hread : readHead Head.response s = .ok (b, t) := by rw [readHead, hs]
    have hdecode : Response.decode s =
        (f.read t >>= fun body => .ok ⟨r.status, b.version, r.fields, body⟩) := by
      simp only [Response.decode, hread, hstatus, hfields, hf, bind, Except.bind]
      rfl
    rw [hdecode, hr]
    cases f.read t with
    | ok body => rfl
    | error e => rfl
  · rw [Response.decode, readHead, hs]
    rfl

theorem Response.decode_append_of_toEnd {r : Response} {b : ResponseHead}
    (hb : Head.response raw = .done b t)
    (h : Reads Response.decode Head.response ({ r with body := · }) .toEnd b)
    (hread : Framing.toEnd.read t = .ok r.body) : ∃ head, raw = head ++ r.body ∧
      Head.response head = .done b [] ∧
      (∀ m < head.length, Response.decode (raw.take m) = .error .incomplete) ∧
      ∀ s, Response.decode (raw ++ s) = .ok { r with body := r.body ++ s } := by
  obtain ⟨head, rfl, htakes⟩ := Head.isDelimited_response raw b t hb
  cases hread
  refine ⟨head, rfl, by simpa using htakes.done [], ?_, ?_⟩
  · intro m hm
    rw [List.take_append_of_le_length (Nat.le_of_lt hm)]
    apply h.short
    apply htakes.short _ _ (List.take_append_drop m head).symm
    exact mt List.drop_eq_nil_iff.mp (Nat.not_le_of_lt hm)
  · intro s
    rw [List.append_assoc, h.done _ _ (htakes.done _)]
    rfl

end Http

open Http

theorem Job.decode_of_request {raw s : Octets} {r : Request} {j : Job} (h : Job.decode raw = .ok j)
    (hr : Request.decode raw = .ok r) (hs : Request.decode s = .ok r) : Job.decode s = .ok j := by
  rw [Job.decode, hr] at h
  rw [Job.decode, hs]
  exact h

theorem Job.decode_of_error {s : Octets} {e : FramingError} (hs : Request.decode s = .error e) :
    Job.decode s = .error (.framing e) := by
  rw [Job.decode, hs]
  rfl

/-- An answer to a poll whose body is no job starts none. -/
theorem Poll.conclude_of_error {status : Status} {fields : Fields} {s : Octets}
    {e : JobDecodeError} (hs : Job.decode s = .error e) (j : Job) :
    Poll.conclude (.ok ⟨status, fields, .ok s⟩) ≠ .ok j := by
  intro h
  rw [Poll.conclude] at h
  split at h
  · obtain ⟨body, hb, h⟩ := bind_eq_ok.mp h
    cases hb
    rw [hs] at h
    cases h
  · cases h

theorem Http.decode_self_delimiting :
    (∀ raw r, Request.decode raw = .ok r → ∃ f n, Framing.ofFields .absent r.fields = .ok f ∧
      Fills Head.request f r.body (raw.take n) ∧ EndsAt Request.decode raw r n) ∧
    (∀ raw r, Response.decode raw = .ok r →
      if Framing.isChunked r.fields ∨ r.fields.has .contentLength then
        ∃ f n, Framing.ofFields .toEnd r.fields = .ok f ∧
          Fills Head.response f r.body (raw.take n) ∧ EndsAt Response.decode raw r n
      else ∃ head b, raw = head ++ r.body ∧ Head.response head = .done b [] ∧
        (∀ m < head.length, Response.decode (raw.take m) = .error .incomplete) ∧
        ∀ s, Response.decode (raw ++ s) = .ok { r with body := r.body ++ s }) ∧
    ∀ raw j, Job.decode raw = .ok j → ∃ n ≤ raw.length,
      (∀ s, Job.decode (raw.take n ++ s) = .ok j) ∧
      ∀ m < n, (∃ e : FramingError, e.isShort ∧ Job.decode (raw.take m) = .error (.framing e)) ∧
        ∀ status fields j', Poll.conclude (.ok ⟨status, fields, .ok (raw.take m)⟩) ≠ .ok j' := by
  -- Jobs are read as requests, so that this is used for both.
  have hrequest : ∀ raw r, Request.decode raw = .ok r → ∃ f n,
      Framing.ofFields .absent r.fields = .ok f ∧ Fills Head.request f r.body (raw.take n) ∧
        EndsAt Request.decode raw r n := by
    intro raw r h
    obtain ⟨b, t, f, hb, hf, hread, hreads⟩ := Request.exists_head h
    have hend : f ≠ .toEnd := by
      obtain ⟨-, rfl⟩ | ⟨-, n, rfl⟩ | ⟨-, -, rfl⟩ := Framing.ofFields_cases hf
      · exact nofun
      · exact nofun
      · exact nofun
    obtain ⟨n, hfills, hends⟩ := hreads.exists_endsAt Head.isDelimited_request hb hend hread
    exact ⟨f, n, hf, hfills, hends⟩
  refine ⟨hrequest, ?_, ?_⟩
  · intro raw r h
    obtain ⟨b, t, f, hb, hf, hread, hreads⟩ := Response.exists_head h
    split
    next hframed =>
      have hend : f ≠ .toEnd := by
        obtain ⟨-, rfl⟩ | ⟨-, n, rfl⟩ | ⟨hc, hl, rfl⟩ := Framing.ofFields_cases hf
        · exact nofun
        · exact nofun
        · rw [hc, hl] at hframed
          exact absurd hframed (by decide)
      obtain ⟨n, hfills, hends⟩ := hreads.exists_endsAt Head.isDelimited_response hb hend hread
      exact ⟨f, n, hf, hfills, hends⟩
    next hframed =>
      obtain ⟨hc, rfl⟩ | ⟨hl, n, rfl⟩ | ⟨-, -, rfl⟩ := Framing.ofFields_cases hf
      · exact absurd (.inl hc) hframed
      · exact absurd (.inr hl) hframed
      · obtain ⟨head, hhead⟩ := Response.decode_append_of_toEnd hb hreads hread
        exact ⟨head, b, hhead⟩
  · intro raw j h
    obtain ⟨r, hr, -⟩ := bind_eq_ok.mp h
    have hr := mapError_eq_ok.mp hr
    obtain ⟨-, n, -, -, hn, hwhole, hshort⟩ := hrequest raw r hr
    refine ⟨n, hn, ?_, ?_⟩
    · intro s
      exact Job.decode_of_request h hr (hwhole s)
    · intro m hm
      obtain ⟨e, he, herror⟩ := hshort m hm
      have hjob := Job.decode_of_error herror
      exact ⟨⟨e, he, hjob⟩, fun status fields j' => Poll.conclude_of_error hjob j'⟩

namespace MessageEnd

/-- A chunked request, whatever its length field says, and the start of something else behind it. -/
def request : Octets :=
  Octets.ofAscii "\r\nPOST http://t/ HTTP/1.1\r\nTransfer-Encoding: x, Chunked\r\n" ++
    Octets.ofAscii "Content-Length: 9\r\n\r\n02;x\r\n\r\n\r\n0\r\nGET"

def response : Octets := Octets.ofAscii "HTTP/1.0 200\n\nup 1"

end MessageEnd

open MessageEnd in
theorem Http.decode_self_delimiting_probe :
    (∃ r n, Request.decode request = .ok r ∧ r.body = crlf ∧ n ≤ request.length - 3 ∧
      EndsAt Request.decode request r n) ∧
    (∃ r, Response.decode response = .ok r ∧ ∀ s, Response.decode (response ++ s) =
      .ok { r with body := Octets.ofAscii "up 1" ++ s }) ∧
    ∃ j n, Job.decode request = .ok j ∧ ∀ s, Job.decode (request.take n ++ s) = .ok j := by
  obtain ⟨hrequest, hresponse, hjob⟩ := decode_self_delimiting
  refine ⟨?_, ?_, ?_⟩
  · have hread : (Request.decode request).toOption.map (·.body) = some crlf ∧
        (Request.decode (request.take (request.length - 3))).isOk := by decide +kernel
    obtain ⟨r, hr, hbody⟩ := Option.map_eq_some_iff.mp hread.1
    obtain ⟨-, n, -, -, hends⟩ := hrequest request r (eq_ok_of_toOption hr)
    refine ⟨r, n, eq_ok_of_toOption hr, hbody, ?_, hends⟩
    by_contra hn
    obtain ⟨e, -, he⟩ := hends.2.2 _ (Nat.lt_of_not_le hn)
    rw [he] at hread
    cases hread.2
  · have hread : (Response.decode response).toOption.map (fun r =>
        (r.body, Framing.isChunked r.fields || r.fields.has .contentLength)) =
        some (Octets.ofAscii "up 1", false) := by decide +kernel
    obtain ⟨r, hr, hbody⟩ := Option.map_eq_some_iff.mp hread
    obtain ⟨hbody, hframed⟩ := Prod.mk.inj hbody
    have h := hresponse response r (eq_ok_of_toOption hr)
    rw [if_neg (by simpa using hframed)] at h
    obtain ⟨-, -, -, -, -, happend⟩ := h
    exact ⟨r, eq_ok_of_toOption hr, by rwa [← hbody]⟩
  · have hread : (Job.decode request).isOk := by decide +kernel
    cases hj : Job.decode request with
    | error e =>
      rw [hj] at hread
      cases hread
    | ok j =>
      obtain ⟨n, -, hwhole, -⟩ := hjob request j hj
      exact ⟨j, n, rfl, hwhole⟩

end ScrapeCourier
