import ScrapeCourier.Proofs.Framing

namespace ScrapeCourier.Http

namespace Status

theorem all_isFieldOctet_ofList {l : List Char}
    (h : l.all fun c => isFieldOctet c.toNat.toUInt8) :
    (Octets.ofAscii (String.ofList l)).all isFieldOctet := by
  rw [Octets.ofAscii, String.toList_ofList, List.all_map]
  exact h

theorem all_isFieldOctet_phrase (s : Status) : (Octets.ofAscii s.phrase).all isFieldOctet := by
  rw [phrase, phrase?]
  split <;> exact all_isFieldOctet_ofList (by decide)

end Status

namespace Head

open Reader

theorem digit_cons {d : Nat} (h : d < 10) (s : Octets) :
    digit ((48 + d).toUInt8 :: s) = .done d s := by
  have e := Utf8.toNat_toUInt8 (n := 48 + d) (by omega)
  have hd : Octet.isDigit (48 + d).toUInt8 := by
    simp only [Octet.isDigit, Bool.and_eq_true, decide_eq_true_eq, UInt8.le_iff_toNat_le, e]
    exact ⟨by simp, by simp; omega⟩
  simp only [digit, bind_apply, octet_cons, Reading.bind_done, ite_run, if_pos hd, pure_apply, e,
    Nat.add_sub_cancel_left]

theorem phrase_append {s : Octets} (h : s.all isFieldOctet) (t : Octets) :
    phrase (Octet.space :: (s ++ Octet.cr :: Octet.lf :: t)) = .done () t := by
  simp only [phrase, bind_apply, octet_cons, Reading.bind_done, ite_run, if_true,
    run_append h Octet.not_isFieldOctet_cr, lineEnd_crlf]

def statusLine (s : Status) : Octets :=
  Octets.ofAscii "HTTP/1.1 " ++ Utf8.encode (Unsigned.text s.code) ++ [Octet.space] ++
    Octets.ofAscii s.phrase ++ crlf

theorem response_statusLine (s : Status) (t : Octets) :
    response (statusLine s ++ t) =
      (fieldLines maxFields t).map fun ls => ⟨.http11, s.code, ls⟩ := by
  have hr := s.range
  have e : statusLine s ++ t = 72 :: (Octets.ofAscii "TTP/1." ++ 49 :: Octet.space ::
      (48 + s.code / 100).toUInt8 :: (48 + s.code / 10 % 10).toUInt8 :: (48 + s.code % 10).toUInt8 ::
      Octet.space :: (Octets.ofAscii s.phrase ++ Octet.cr :: Octet.lf :: t)) := by
    rw [statusLine, Unsigned.encode_text_of_three hr.1 hr.2]
    simp [crlf, Octets.ofAscii]
  have hc : s.code / 100 * 100 + s.code / 10 % 10 * 10 + s.code % 10 = s.code := by omega
  rw [e, response]
  simp only [bind_apply, startLine_cons (b := 72) (by decide) (by decide), Reading.bind_done,
    versionFrom_http11, expect_cons, digit_cons (show s.code / 100 < 10 by omega),
    digit_cons (Nat.mod_lt (s.code / 10) (by decide : 10 > 0)),
    digit_cons (Nat.mod_lt s.code (by decide : 10 > 0)), hc,
    phrase_append s.all_isFieldOctet_phrase]
  rfl

end Head

namespace Response

variable (r : Response)

def written : List Field := r.fields.kept ++ [lengthField r.body]

theorem encode_eq :
    r.encode = Head.statusLine r.status ++ (r.written.flatMap Field.encode ++ (crlf ++ r.body)) := by
  simp [encode, Head.statusLine, written, Fields.encode_eq, encodeContentLength_eq]

theorem readHead_encode : readHead Head.response r.encode =
    if r.written.length ≤ Head.maxFields then
      .ok (⟨.http11, r.status.code, r.written.map Field.line⟩, r.body)
    else .error (.malformed .tooManyFields) := by
  rw [readHead, encode_eq, Head.response_statusLine, Head.fieldLines_encode]
  by_cases h : r.written.length ≤ Head.maxFields
  · simp only [if_pos h, Reading.map_done]
  · simp only [if_neg h, Reading.map_malformed]

theorem decode_of_room (hroom : r.written.length ≤ Head.maxFields) (hb : r.body.length < UInt64.size) :
    decode r.encode = .ok ⟨r.status, .http11, r.fields.withLength r.body, r.body⟩ := by
  have hs : Status.ofNat? r.status.code = some r.status := dif_pos r.status.range
  have hf : Fields.ofLines (r.written.map Field.line) = .ok (r.fields.withLength r.body) := by
    apply Fields.ofLines_map_line
    rw [Fields.toList_withLength, written, List.map_append, List.map_singleton,
      trimmed_lengthField]
  have hl := Framing.ofFields_of_length .toEnd
    (fun f hf => r.fields.not_isFramingField_of_mem_kept hf)
    (Fields.toList_withLength r.fields r.body) hb
  rw [decode, readHead_encode, if_pos hroom]
  simp only [bind, Except.bind, hs, hf, hl, Framing.read_counted]
  rfl

theorem decode_of_no_room (hroom : Head.maxFields < r.written.length) :
    decode r.encode = .error (.malformed .tooManyFields) := by
  rw [decode, readHead_encode, if_neg (Nat.not_le_of_lt hroom)]
  rfl

end Response

/-- Lengths have 64 bits, so that no body in memory is longer than they can say. -/
theorem decode_encode_response (r : Response) :
    (r.fields.kept.length ≤ 127 → r.body.length < UInt64.size →
      ∃ h : Fields, Response.decode r.encode = .ok ⟨r.status, .http11, h, r.body⟩ ∧
        h.toList = r.fields.kept.map Field.trimmed ++ [lengthField r.body]) ∧
    (128 ≤ r.fields.kept.length →
      Response.decode r.encode = .error (.malformed .tooManyFields)) := by
  have hw : r.written.length = r.fields.kept.length + 1 := by simp [Response.written]
  constructor
  · intro hk hb
    exact ⟨r.fields.withLength r.body, r.decode_of_room (hw ▸ Nat.succ_le_succ hk) hb,
      r.fields.toList_withLength r.body⟩
  · intro hk
    exact r.decode_of_no_room (hw ▸ Nat.succ_le_succ hk)

/-- A body that looks like a message, behind fields that say otherwise where it ends. -/
def Response.nested : Response where
  status := ⟨299, by decide⟩
  version := .http10
  fields := .ofList [⟨.contentLength, .number 3⟩, ⟨.id, { octets := [32, 55, 9], valid := rfl }⟩,
    ⟨.transferEncoding, .empty⟩, ⟨.id, .empty⟩]
  body := Octets.ofAscii "HTTP/1.1 404 Not Found\r\n\r\n"

def Response.crowded : Response where
  status := .ok
  version := .http11
  fields := ⟨[⟨.id, .empty, List.replicate 127 .empty⟩], by decide⟩
  body := []

theorem decode_encode_response_nested :
    (∃ h : Fields, Response.decode Response.nested.encode =
        .ok ⟨⟨299, by decide⟩, .http11, h, Response.nested.body⟩ ∧
      h.toList = [⟨.id, { octets := [55], valid := rfl }⟩, ⟨.id, .empty⟩,
        ⟨.contentLength, .number 26⟩]) ∧
    Response.decode Response.crowded.encode = .error (.malformed .tooManyFields) := by
  constructor
  · obtain ⟨h, hd, hl⟩ := (decode_encode_response Response.nested).1 (by decide) (by decide)
    exact ⟨h, hd, hl⟩
  · refine (decode_encode_response Response.crowded).2 ?_
    rw [Response.crowded, Fields.kept_group _ _ _ _ (by decide), List.length_map, List.length_cons,
      List.length_replicate]

end ScrapeCourier.Http
