import ScrapeCourier.Proofs.Framing
import ScrapeCourier.Proofs.TargetText

namespace ScrapeCourier.Http

namespace Head

open Reader

theorem methodFrom_cons {m : Method} {b : UInt8} {s : Octets} (h : m.octets = b :: s) (t : Octets) :
    methodFrom b (s ++ Octet.space :: t) = .done m t := by
  have hm := m.token
  rw [h, List.all_cons, Bool.and_eq_true] at hm
  have ho : Method.ofOctets? (b :: s) = some m := by
    rw [← h]
    exact dif_pos ⟨m.nonempty, m.token⟩
  simp only [methodFrom, hm.1, Bool.not_true, Bool.false_eq_true, if_false, bind_apply,
    run_append hm.2 (by decide : isToken Octet.space = false), Reading.bind_done, ho, if_true,
    pure_apply]

theorem isTargetOctet_of_mem_encodeChar {c : Char} (h : Target.IsGraphic c) {b : UInt8}
    (hb : b ∈ Utf8.encodeChar c) : isTargetOctet b := by
  have hb' : 0x21 ≤ b.toNat ∧ b.toNat ≠ 0x7F := by
    by_cases hl : c.toNat < 0x80
    · rw [Utf8.encodeChar_of_ascii hl, List.mem_singleton] at hb
      rw [hb, Utf8.toNat_toUInt8 (Nat.lt_trans hl (by decide))]
      exact h
    · have := Utf8.le_of_mem_encodeChar (Nat.le_of_not_lt hl) hb
      omega
  rw [isTargetOctet, Bool.and_eq_true, decide_eq_true_eq, decide_eq_true_eq, UInt8.le_iff_toNat_le]
  exact ⟨hb'.1, fun e => hb'.2 (congrArg UInt8.toNat e)⟩

theorem all_isTargetOctet_encode {s : List Char} (h : ∀ c ∈ s, Target.IsGraphic c) :
    (Utf8.encode s).all isTargetOctet := by
  rw [List.all_eq_true]
  intro b hb
  obtain ⟨c, hc, hb⟩ := List.mem_flatMap.mp hb
  exact isTargetOctet_of_mem_encodeChar (h c hc) hb

theorem target_encode {s : List Char} (hs : s ≠ []) (h : ∀ c ∈ s, Target.IsGraphic c)
    (t : Octets) : target (Utf8.encode s ++ Octet.space :: t) = .done s t := by
  have hne : (Utf8.encode s).isEmpty = false :=
    List.isEmpty_eq_false_iff.mpr (mt Utf8.encode_eq_nil.mp hs)
  simp only [target, bind_apply, run_append (all_isTargetOctet_encode h)
    (by decide : isTargetOctet Octet.space = false), Reading.bind_done, ne_eq, not_true_eq_false,
    decide_false, hne, Bool.or_false, Bool.false_eq_true, if_false, Utf8.decode?_encode, pure_apply]

def requestLine (m : Method) (t : Target) : Octets :=
  m.octets ++ [Octet.space] ++ Utf8.encode t.text ++ Octets.ofAscii " HTTP/1.1" ++ crlf

theorem request_requestLine (m : Method) {t : Target} (h : t.IsRead) (u : Octets) :
    request (requestLine m t ++ u) =
      (fieldLines maxFields u).map fun ls => ⟨m, t.text, .http11, ls⟩ := by
  have hm := m.token
  cases hs : m.octets with
  | nil => exact absurd hs m.nonempty
  | cons b s =>
    rw [hs, List.all_cons, Bool.and_eq_true] at hm
    have e : requestLine m t ++ u = b :: (s ++ Octet.space :: (Utf8.encode t.text ++
        Octet.space :: 72 :: (Octets.ofAscii "TTP/1." ++ 49 :: Octet.cr :: Octet.lf :: u))) := by
      simp [requestLine, hs, crlf, Octets.ofAscii]
    rw [e, request]
    simp only [bind_apply, startLine_cons (Octet.ne_lf_of_isToken hm.1)
      (Octet.ne_cr_of_isToken hm.1), Reading.bind_done, methodFrom_cons hs,
      target_encode t.text_ne_nil (fun c => Target.isGraphic_of_mem_text h), octet_cons,
      versionFrom_http11, endLine, lineEnd_crlf]
    rfl

end Head

namespace Authority

variable (a : Authority)

theorem octet_of_mem_encode {b : UInt8} (h : b ∈ Utf8.encode a.text) :
    isFieldOctet b ∧ Octet.isBlank b = false := by
  have ha {c : Char} (hc : c ∈ a.text) := Target.range_of_inAuthority
    (List.all_eq_true.mp a.all_inAuthority c hc)
  have hascii : ∀ c ∈ a.text, c.toNat < 0x80 := by
    intro c hc
    exact Nat.lt_succ_of_lt (ha hc).2
  have hb : 0x21 ≤ b.toNat ∧ b.toNat < 0x7F := by
    rw [Utf8.encode_of_ascii hascii] at h
    obtain ⟨c, hc, rfl⟩ := List.mem_map.mp h
    rw [Utf8.toNat_toUInt8 (Nat.lt_trans (hascii c hc) (by decide))]
    exact ha hc
  obtain ⟨hfield, hblank, -⟩ := Octet.of_range hb.1 hb.2
  exact ⟨hfield, hblank⟩

def hostField : Field where
  name := .host
  value.octets := Utf8.encode a.text
  value.valid := List.all_eq_true.mpr fun _ hb => (a.octet_of_mem_encode hb).1

theorem trimmed_hostField : a.hostField.trimmed = a.hostField := by
  have h : (Utf8.encode a.text).trimBlanks = Utf8.encode a.text :=
    Octets.trimBlanks_of_not_isBlank fun _ hb => (a.octet_of_mem_encode hb).2
  simp only [Field.trimmed, FieldValue.trimmed, hostField, h]

theorem encode_hostField :
    encodeLine (Octets.ofAscii "Host") (Utf8.encode a.text) = a.hostField.encode := by
  have h : Octets.ofAscii "Host" = FieldName.host.canonical := by decide
  rw [h]
  rfl

end Authority

namespace Request

variable (r : Request)

def addedHost : List Field :=
  if r.fields.has .host then [] else r.target.authority?.toList.map Authority.hostField

def addedLength : List Field := if r.body = [] then [] else [lengthField r.body]

def written : List Field := r.addedHost ++ r.fields.kept ++ r.addedLength

theorem encode_eq : r.encode =
    Head.requestLine r.method r.target ++ (r.written.flatMap Field.encode ++ (crlf ++ r.body)) := by
  have hlength : (if r.body = [] then [] else encodeContentLength r.body) =
      r.addedLength.flatMap Field.encode := by
    rw [addedLength, encodeContentLength_eq]
    cases r.body with
    | nil => rfl
    | cons b s => simp
  cases hh : r.fields.has .host with
  | true => simp [encode, written, addedHost, hh, hlength, Head.requestLine, Fields.encode_eq]
  | false =>
    cases ha : r.target.authority? with
    | none => simp [encode, written, addedHost, hh, ha, hlength, Head.requestLine, Fields.encode_eq]
    | some a =>
      simp [encode, written, addedHost, hh, ha, a.encode_hostField, hlength, Head.requestLine,
        Fields.encode_eq]

theorem readHead_encode (h : r.target.IsRead) :
    readHead Head.request r.encode =
      if r.written.length ≤ Head.maxFields then
        .ok (⟨r.method, r.target.text, .http11, r.written.map Field.line⟩, r.body)
      else .error (.malformed .tooManyFields) := by
  rw [readHead, encode_eq, Head.request_requestLine r.method h, Head.fieldLines_encode]
  by_cases hl : r.written.length ≤ Head.maxFields
  · simp only [if_pos hl, Reading.map_done]
  · simp only [if_neg hl, Reading.map_malformed]

def received : List Field := r.addedHost ++ r.fields.kept.map Field.trimmed ++ r.addedLength

theorem map_trimmed_written : r.written.map Field.trimmed = r.received := by
  have hhost : r.addedHost.map Field.trimmed = r.addedHost := by
    rw [addedHost]
    split
    · rfl
    · rw [List.map_map]
      exact List.map_congr_left fun a _ => a.trimmed_hostField
  have hlength : r.addedLength.map Field.trimmed = r.addedLength := by
    rw [addedLength]
    split
    · rfl
    · rw [List.map_singleton, trimmed_lengthField]
  rw [written, received, List.map_append, List.map_append, hhost, hlength]

theorem exists_toList_eq_received : ∃ h : Fields, h.toList = r.received := by
  have hhost : r.fields.carried.trimmed.has .host = r.fields.has .host := by
    rw [Fields.has_trimmed, Fields.carried, Fields.has_filter]
    rfl
  have hkept : r.fields.carried.trimmed.toList = r.fields.kept.map Field.trimmed := by
    rw [Fields.toList_trimmed, Fields.toList_carried]
  obtain ⟨h, hh, hn⟩ : ∃ h : Fields,
      h.toList = r.fields.kept.map Field.trimmed ++ r.addedLength ∧
        h.has .host = r.fields.has .host := by
    by_cases hb : r.body = []
    · exact ⟨_, by rw [hkept, addedLength, if_pos hb, List.append_nil], hhost⟩
    · refine ⟨r.fields.withLength r.body, ?_, ?_⟩
      · rw [Fields.toList_withLength, addedLength, if_neg hb]
      · rw [Fields.has_eq_any, Fields.toList_withLength, List.any_append, ← hkept,
          ← Fields.has_eq_any, hhost]
        exact Bool.or_false _
  cases hr : r.fields.has .host with
  | true => exact ⟨h, by rw [hh, received, addedHost, if_pos hr, List.nil_append]⟩
  | false =>
    cases ha : r.target.authority? with
    | none => exact ⟨h, by simp [hh, received, addedHost, ha]⟩
    | some a =>
      refine ⟨h.prepend .host a.hostField.value (hn.trans hr), ?_⟩
      rw [Fields.toList_prepend, hh, received, addedHost, hr, ha]
      rfl

theorem not_isFramingField_of_mem {f : Field}
    (hf : f ∈ r.addedHost ++ r.fields.kept.map Field.trimmed) : isFramingField f.name = false := by
  rcases List.mem_append.mp hf with hf | hf
  · rw [addedHost] at hf
    split at hf
    · cases hf
    · obtain ⟨a, -, rfl⟩ := List.mem_map.mp hf
      have hn : isFramingField .host = false := by decide
      exact hn
  · exact r.fields.not_isFramingField_of_mem_kept hf

/-- An empty body needs no length, as a request without one has no body. -/
theorem ofFields_received {h : Fields} (hh : h.toList = r.received) (hb : r.body.length < UInt64.size) :
    (Framing.ofFields .absent h).bind (·.read r.body) = .ok r.body := by
  by_cases he : r.body = []
  · rw [received, addedLength, if_pos he, List.append_nil] at hh
    rw [Framing.ofFields_of_none .absent fun f hf => r.not_isFramingField_of_mem (hh ▸ hf), he]
    rfl
  · rw [received, addedLength, if_neg he] at hh
    rw [Framing.ofFields_of_length .absent (fun f hf => r.not_isFramingField_of_mem hf) hh hb]
    exact Framing.read_counted r.body

theorem decode_of_room (h : r.target.IsRead) (hs : r.target.text.head? ≠ some '/')
    (hl : Utf8.size r.target.text ≤ 65534) (hroom : r.written.length ≤ Head.maxFields)
    (hb : r.body.length < UInt64.size) :
    ∃ k : Fields, decode r.encode = .ok ⟨r.method, r.target, .http11, k, r.body⟩ ∧
      k.toList = r.received := by
  obtain ⟨k, hk⟩ := r.exists_toList_eq_received
  have hf : Fields.ofLines (r.written.map Field.line) = .ok k :=
    Fields.ofLines_map_line (r.map_trimmed_written.trans hk.symm)
  have ht : Target.resolve r.target.text k = .ok r.target := by
    rw [Target.resolve, if_pos hs, Target.parse_text h hs hl]
    rfl
  obtain ⟨framing, hframing, hbody⟩ := bind_eq_ok.mp (r.ofFields_received hk hb)
  refine ⟨k, ?_, hk⟩
  rw [decode, readHead_encode r h, if_pos hroom]
  simp only [bind, Except.bind, hf, ht, hframing, hbody]
  rfl

theorem decode_of_no_room (h : r.target.IsRead) (hroom : Head.maxFields < r.written.length) :
    decode r.encode = .error (.malformed .tooManyFields) := by
  rw [decode, readHead_encode r h, if_neg (Nat.not_le_of_lt hroom)]
  rfl

end Request

/-- A path alone would be read as the path of the server that the Host field names. -/
theorem decode_encode_request (r : Request) (h : r.target.IsRead)
    (hs : r.target.text.head? ≠ some '/') (hl : Utf8.size r.target.text ≤ 65534) :
    (r.written.length ≤ 128 → r.body.length < UInt64.size →
      ∃ k : Fields, Request.decode r.encode = .ok ⟨r.method, r.target, .http11, k, r.body⟩ ∧
        k.toList = r.addedHost ++ r.fields.kept.map Field.trimmed ++ r.addedLength) ∧
    (128 < r.written.length → Request.decode r.encode = .error (.malformed .tooManyFields)) :=
  ⟨r.decode_of_room h hs hl, r.decode_of_no_room h⟩

namespace Request

/-- A request for a URL without a path, with a field of its own twice. -/
def probe : Request where
  method := .post
  target := .absolute .https ⟨"n:9100".toList, by decide, by rfl⟩ ⟨['/'], none, rfl, rfl, rfl⟩
  version := .http10
  fields := .ofList [⟨.id, { octets := [32, 54, 9], valid := rfl }⟩, ⟨.connection, .empty⟩,
    ⟨.id, .empty⟩]
  body := Octets.ofAscii "\r\n"

def crowded : Request where
  method := .get
  target := .asterisk
  version := .http11
  fields := ⟨[⟨.id, .empty, List.replicate 128 .empty⟩], by decide⟩
  body := []

end Request

theorem decode_encode_request_probe :
    (∃ k : Fields, Request.decode Request.probe.encode =
        .ok ⟨.post, Request.probe.target, .http11, k, [13, 10]⟩ ∧
      k.toList = [⟨.host, { octets := Octets.ofAscii "n:9100", valid := rfl }⟩,
        ⟨.id, { octets := [54], valid := rfl }⟩, ⟨.id, .empty⟩, ⟨.contentLength, .number 2⟩]) ∧
    Request.decode Request.crowded.encode = .error (.malformed .tooManyFields) := by
  constructor
  · obtain ⟨k, hd, hk⟩ := (decode_encode_request Request.probe ⟨"HTTPS://n:9100".toList, rfl⟩
      (by decide) (by decide)).1 (by decide) (by decide)
    exact ⟨k, hd, hk⟩
  · refine (decode_encode_request Request.crowded ⟨['*'], rfl⟩ (by decide) (by decide)).2 ?_
    have hk : Request.crowded.fields.kept.length = 129 := by
      rw [Request.crowded, Fields.kept_group _ _ _ _ (by decide), List.length_map,
        List.length_cons, List.length_replicate]
    rw [Request.written, List.length_append, List.length_append, hk]
    exact Nat.lt_add_right _ (Nat.lt_add_left _ (Nat.lt_succ_self 128))

end ScrapeCourier.Http
