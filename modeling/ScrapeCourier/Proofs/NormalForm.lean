import ScrapeCourier.Proofs.MessageEnd
import ScrapeCourier.Proofs.ReadTarget
import ScrapeCourier.Proofs.ResponseRoundTrip

namespace ScrapeCourier.Http

theorem Chunked.Coded.length_le {coded body : Octets} (h : Coded coded body) :
    body.length ≤ coded.length := by
  induction h with
  | last h => exact Nat.zero_le _
  | chunk h hne hlt _ ih =>
    simp only [List.length_append]
    omega

theorem Framing.length_of_read {f : Framing} {s body : Octets} (h : f.read s = .ok body) :
    body.length ≤ s.length := by
  by_cases hf : f = .toEnd
  · subst hf
    cases h
    exact Nat.le_refl _
  · obtain ⟨coded, t, rfl, hspans⟩ := exists_spans hf h
    have hle : body.length ≤ coded.length := by
      cases hspans with
      | chunked hcoded => exact hcoded.length_le
      | counted => exact Nat.le_refl _
      | absent => exact Nat.le_refl _
    rw [List.length_append]
    exact Nat.le_add_right_of_le hle

theorem Reader.IsDelimited.length_le {ε α : Type} {r : Reader ε α} (hr : r.IsDelimited)
    {s t : Octets} {a : α} (h : r s = .done a t) : t.length ≤ s.length := by
  obtain ⟨u, rfl, -⟩ := hr s a t h
  rw [List.length_append]
  exact Nat.le_add_left _ _

theorem Field.encode_trimmed {f : Field} (h : f.value.IsTrimmed) : f.trimmed.encode = f.encode := by
  have hvalue : f.value.trimmed.octets = f.value.octets := h
  rw [encode, encode, trimmed, hvalue]

theorem Field.flatMap_encode_trimmed {fs : List Field} (h : ∀ f ∈ fs, f.value.IsTrimmed) :
    (fs.map trimmed).flatMap encode = fs.flatMap encode := by
  rw [List.flatMap_map]
  exact List.flatMap_congr fun f hf => encode_trimmed (h f hf)

theorem isTrimmed_lengthField (body : Octets) : (lengthField body).value.IsTrimmed :=
  congrArg (fun f : Field => f.value.octets) (trimmed_lengthField body)

theorem isFramingField_lengthField (body : Octets) : isFramingField (lengthField body).name := by
  have h : isFramingField .contentLength = true := by decide
  exact h

theorem Fields.kept_of_toList {h k : Fields} (front back : List Field)
    (hk : k.toList = front ++ h.kept.map Field.trimmed ++ back)
    (hfront : ∀ f ∈ front, isFramingField f.name = false)
    (hback : ∀ f ∈ back, isFramingField f.name) :
    k.kept = front ++ h.kept.map Field.trimmed := by
  have hcarried : k.kept = k.toList.filter (!isFramingField ·.name) := by
    rw [← toList_carried, carried, toList_filter]
  rw [hcarried, hk, List.filter_append, List.filter_eq_self.mpr, List.filter_eq_nil_iff.mpr,
    List.append_nil]
  · intro f hf
    rw [hback f hf]
    decide
  · intro f hf
    obtain hf | hf := List.mem_append.mp hf
    · rw [hfront f hf]
      rfl
    · rw [h.not_isFramingField_of_mem_kept hf]
      rfl

namespace Response

variable {raw : Octets} {r : Response}

theorem length_body_of_decode (h : decode raw = .ok r) : r.body.length ≤ raw.length := by
  obtain ⟨head, t, f, hhead, -, -, -, hread, -⟩ := of_decode h
  exact (Framing.length_of_read hread).trans
    (Head.isDelimited_response.length_le (eq_done_of_readHead hhead))

def reread (r : Response) : Response := ⟨r.status, .http11, r.fields.withLength r.body, r.body⟩

theorem written_reread : r.reread.written = r.written.map Field.trimmed := by
  have hkept : (r.fields.withLength r.body).kept = r.fields.kept.map Field.trimmed := by
    apply Fields.kept_of_toList [] [lengthField r.body]
    · rw [Fields.toList_withLength, List.nil_append]
    · exact fun f hf => absurd hf List.not_mem_nil
    · intro f hf
      rw [List.mem_singleton.mp hf]
      exact isFramingField_lengthField r.body
  rw [written, written, List.map_append, List.map_singleton, trimmed_lengthField, reread, hkept]

theorem encode_reread (h : ∀ f ∈ r.fields.toList, f.value.IsTrimmed) :
    r.reread.encode = r.encode := by
  have hwritten : ∀ f ∈ r.written, f.value.IsTrimmed := by
    intro f hf
    obtain hf | hf := List.mem_append.mp hf
    · exact h f (List.mem_filter.mp hf).1
    · rw [List.mem_singleton.mp hf]
      exact isTrimmed_lengthField r.body
  rw [encode_eq, encode_eq, written_reread, Field.flatMap_encode_trimmed hwritten]
  rfl

end Response

namespace Request

variable {raw : Octets} {r : Request} {k : Fields}

theorem length_body_of_decode (h : decode raw = .ok r) : r.body.length ≤ raw.length := by
  obtain ⟨head, t, f, hhead, -, -, -, hread, -⟩ := of_decode h
  exact (Framing.length_of_read hread).trans
    (Head.isDelimited_request.length_le (eq_done_of_readHead hhead))

/-- What is read of a request that is written names its server, if its target does. -/
theorem has_host_received (hk : k.toList = r.received) :
    k.has .host ∨ r.target.authority? = none := by
  rw [Fields.has_eq_any, hk, received, addedHost, List.any_append, List.any_append]
  cases hhost : r.fields.has .host with
  | true =>
    have hkept : (r.fields.kept.map Field.trimmed).any (·.name = .host) = true := by
      rw [← Fields.toList_carried, ← Fields.toList_trimmed, ← Fields.has_eq_any,
        Fields.has_trimmed, Fields.carried, Fields.has_filter, hhost]
      rfl
    left
    rw [hkept, Bool.or_true, Bool.true_or]
  | false =>
    cases ha : r.target.authority? with
    | none => exact .inr rfl
    | some a => exact .inl rfl

theorem written_of_toList (hk : k.toList = r.received) :
    written ⟨r.method, r.target, .http11, k, r.body⟩ = r.received := by
  have hadded : addedHost ⟨r.method, r.target, .http11, k, r.body⟩ = [] := by
    obtain hhost | ha := has_host_received hk
    · exact if_pos hhost
    · simp [addedHost, ha]
  have hkept : k.kept = r.addedHost ++ r.fields.kept.map Field.trimmed := by
    apply Fields.kept_of_toList _ _ hk
    · intro f hf
      exact r.not_isFramingField_of_mem (List.mem_append_left _ hf)
    · intro f hf
      rw [addedLength] at hf
      split at hf
      · cases hf
      · rw [List.mem_singleton.mp hf]
        exact isFramingField_lengthField r.body
  rw [written, hadded, hkept]
  rfl

theorem isTrimmed_written (h : ∀ f ∈ r.fields.toList, f.value.IsTrimmed) :
    ∀ f ∈ r.written, f.value.IsTrimmed := by
  intro f hf
  obtain hf | hf := List.mem_append.mp hf
  · obtain hf | hf := List.mem_append.mp hf
    · rw [addedHost] at hf
      split at hf
      · cases hf
      · obtain ⟨a, -, rfl⟩ := List.mem_map.mp hf
        exact congrArg (fun f : Field => f.value.octets) a.trimmed_hostField
    · exact h f (List.mem_filter.mp hf).1
  · rw [addedLength] at hf
    split at hf
    · cases hf
    · rw [List.mem_singleton.mp hf]
      exact isTrimmed_lengthField r.body

theorem encode_of_toList (h : ∀ f ∈ r.fields.toList, f.value.IsTrimmed)
    (hk : k.toList = r.received) :
    encode ⟨r.method, r.target, .http11, k, r.body⟩ = r.encode := by
  rw [encode_eq, encode_eq, written_of_toList hk, ← map_trimmed_written,
    Field.flatMap_encode_trimmed (isTrimmed_written h)]

end Request

/-- Whatever octets a message was read from, what is written of it is read as that message, and is
written so again. The lines of what is written may be too many to be read, as may be the octets of the
target of a request. Octets in memory are counted in 64 bits. -/
theorem decode_reencode (raw : Octets) (hraw : raw.length < UInt64.size) :
    (∀ r, Response.decode raw = .ok r →
      (r.written.length ≤ 128 → ∃ k : Fields,
        Response.decode r.encode = .ok ⟨r.status, .http11, k, r.body⟩ ∧
          Response.encode ⟨r.status, .http11, k, r.body⟩ = r.encode) ∧
      (128 < r.written.length → Response.decode r.encode = .error (.malformed .tooManyFields))) ∧
    ∀ r, Request.decode raw = .ok r →
      (r.written.length ≤ 128 → Utf8.size r.target.text ≤ 65534 → ∃ k : Fields,
        Request.decode r.encode = .ok ⟨r.method, r.target, .http11, k, r.body⟩ ∧
          Request.encode ⟨r.method, r.target, .http11, k, r.body⟩ = r.encode) ∧
      (128 < r.written.length → Request.decode r.encode = .error (.malformed .tooManyFields)) := by
  constructor
  · intro r h
    have hb : r.body.length < UInt64.size :=
      Nat.lt_of_le_of_lt (Response.length_body_of_decode h) hraw
    refine ⟨fun hroom => ?_, r.decode_of_no_room⟩
    exact ⟨_, r.decode_of_room hroom hb, Response.encode_reread (Response.isTrimmed_of_decode h)⟩
  · intro r h
    have hb : r.body.length < UInt64.size :=
      Nat.lt_of_le_of_lt (Request.length_body_of_decode h) hraw
    have hread := Request.isRead_of_decode h
    refine ⟨fun hroom hl => ?_, r.decode_of_no_room hread⟩
    obtain ⟨k, hk, hreceived⟩ := r.decode_of_room hread (Request.head?_of_decode h) hl hroom hb
    exact ⟨k, hk, Request.encode_of_toList (Request.isTrimmed_of_decode h) hreceived⟩

namespace NormalForm

/-- A chunked response with bare line feeds, and a length that does not count. -/
def response : Octets :=
  Octets.ofAscii "\n\r\nHTTP/1.0 200\nX-a: 1 \nCONTENT-LENGTH: 9\nx-b:2\r\nX-A:\t3\n" ++
    Octets.ofAscii "transfer-encoding: Chunked\n\r\n02;x\r\nup\r\n\r\n"

def writtenResponse : Octets :=
  Octets.ofAscii "HTTP/1.1 200 OK\r\nX-A: 1\r\nX-A: 3\r\nX-B: 2\r\nContent-Length: 2\r\n\r\nup"

def request : Octets :=
  Octets.ofAscii "\nGET /a?b HTTP/1.0\nconnection: close\nid:7\nhost: n:80\nHost: m\n\nrest"

def writtenRequest : Octets :=
  Octets.ofAscii "GET http://n:80/a?b HTTP/1.1\r\nId: 7\r\nHost: n:80\r\nHost: m\r\n\r\n"

end NormalForm

open NormalForm in
theorem decode_reencode_probe :
    (∃ r k, Response.decode response = .ok r ∧ r.encode = writtenResponse ∧
      Response.decode writtenResponse = .ok ⟨r.status, .http11, k, r.body⟩ ∧
      Response.encode ⟨r.status, .http11, k, r.body⟩ = writtenResponse) ∧
    ∃ r k, Request.decode request = .ok r ∧ r.encode = writtenRequest ∧
      Request.decode writtenRequest = .ok ⟨r.method, r.target, .http11, k, r.body⟩ ∧
      Request.encode ⟨r.method, r.target, .http11, k, r.body⟩ = writtenRequest := by
  constructor
  · have hread : (Response.decode response).toOption.map
        (fun r => (r.encode, r.written.length)) = some (writtenResponse, 4) := by decide +kernel
    obtain ⟨r, hr, he⟩ := Option.map_eq_some_iff.mp hread
    obtain ⟨he, hl⟩ := Prod.mk.inj he
    have hr := eq_ok_of_toOption hr
    obtain ⟨k, hk, hw⟩ := ((decode_reencode response (by decide)).1 r hr).1 (hl ▸ by decide)
    rw [he] at hk hw
    exact ⟨r, k, hr, he, hk, hw⟩
  · have hread : (Request.decode request).toOption.map
        (fun r => (r.encode, r.written.length, Utf8.size r.target.text)) =
          some (writtenRequest, 3, 15) := by decide +kernel
    obtain ⟨r, hr, he⟩ := Option.map_eq_some_iff.mp hread
    obtain ⟨he, hl⟩ := Prod.mk.inj he
    obtain ⟨hl, hs⟩ := Prod.mk.inj hl
    have hr := eq_ok_of_toOption hr
    obtain ⟨k, hk, hw⟩ := ((decode_reencode request (by decide)).2 r hr).1 (hl ▸ by decide)
      (hs ▸ by decide)
    rw [he] at hk hw
    exact ⟨r, k, hr, he, hk, hw⟩

end ScrapeCourier.Http
