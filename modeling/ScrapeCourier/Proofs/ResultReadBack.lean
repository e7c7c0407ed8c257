import ScrapeCourier.Proofs.ResultMessage

namespace ScrapeCourier

open Http

theorem Unsigned.length_padded (places n : Nat) : (padded places n).length = places := by
  induction places generalizing n with
  | zero => rfl
  | succ k ih => rw [padded, List.length_append, ih, List.length_singleton]

theorem Duration.exists_sixPlaces (d : Duration) : ∃ whole decimals,
    d.sixPlaces = whole ++ '.' :: decimals ∧ whole ≠ [] ∧ whole.all Ascii.isDigit ∧
      decimals.length = 6 ∧ decimals.all Ascii.isDigit :=
  ⟨_, _, rfl, Unsigned.text_ne_nil _, Unsigned.all_isDigit_text _, Unsigned.length_padded _ _,
    Unsigned.all_isDigit_padded _ _⟩

namespace ScrapeResult

variable (id : FieldValue) (left : Duration) (r : ScrapeResult)

/-- The fields that a message does not hold afresh. -/
def others (h : Fields) : List Field := h.toList.filter (!isWritten ·.name)

theorem isWritten_eq {n : FieldName} (hid : n ≠ .id) (hleft : n ≠ remainingField) :
    isWritten n = [FieldName.contentLength, .transferEncoding, .connection].contains n := by
  simp [isWritten, hid, hleft]

theorem length_kept (h : Fields) : h.kept.length =
    (others h).length + (h.values .id).length + (h.values remainingField).length := by
  rw [Fields.values_eq, Fields.values_eq, List.length_map, List.length_map, Fields.kept, others]
  induction h.toList with
  | nil => rfl
  | cons f fs ih =>
    simp only [List.filter_cons, decide_eq_true_eq]
    by_cases hid : f.name = .id
    · rw [hid, if_pos (by decide), if_neg (by decide), if_pos rfl, if_neg (by decide),
        List.length_cons, List.length_cons, ih]
      omega
    by_cases hleft : f.name = remainingField
    · rw [hleft, if_pos (by decide), if_neg (by decide), if_neg (by decide), if_pos rfl,
        List.length_cons, List.length_cons, ih]
      omega
    rw [if_neg hid, if_neg hleft, isWritten_eq hid hleft]
    split
    · rw [List.length_cons, List.length_cons, ih]
      omega
    · exact ih

theorem others_labelled : others (r.labelled id left) = others r.fields := by
  have hid : ¬(!isWritten .id) := by decide
  have hleft : ¬(!isWritten remainingField) := by decide
  rw [others, others, ← Fields.toList_filter (!isWritten ·), ← Fields.toList_filter (!isWritten ·),
    labelled, Fields.filter_insert hleft, Fields.filter_insert hid]

theorem length_written :
    (Response.written ⟨r.status, .http11, r.labelled id left, r.body⟩).length =
    (others r.fields).length + 3 := by
  rw [Response.written, List.length_append, length_kept, others_labelled, values_labelled, labelled,
    Fields.values_insert_self]
  rfl

theorem others_withLength (h : Fields) (body : Octets) :
    others (h.withLength body) = (others h).map Field.trimmed := by
  have hlength : [lengthField body].filter (!isWritten ·.name) = [] := rfl
  have hkept : h.kept.filter (!isWritten ·.name) = others h := by
    rw [Fields.kept, List.filter_filter]
    apply List.filter_congr
    intro f _
    simp only [isWritten, List.contains_cons, Bool.not_or]
    grind
  rw [others, Fields.toList_withLength, List.filter_append, hlength, List.append_nil,
    List.filter_map, ← hkept]
  rfl

end ScrapeResult

open ScrapeResult

/-- The id is that of a job that was read, so that nothing is at its ends to get lost. -/
theorem Job.decode_encode_result {raw : Octets} {j : Job} (hj : decode raw = .ok j)
    (left : Duration) (r : ScrapeResult) :
    FieldValue.ofOctets? (Utf8.encode left.sixPlaces) = some (remainingValue left) ∧
    (∃ whole decimals, left.sixPlaces = whole ++ '.' :: decimals ∧ whole ≠ [] ∧
      whole.all Ascii.isDigit ∧ decimals.length = 6 ∧ decimals.all Ascii.isDigit) ∧
    ((others r.fields).length ≤ 125 → r.body.length < UInt64.size →
      ∃ m, Response.decode (r.encode j.id left) = .ok m ∧ Relays m j.id left r ∧
        others m.fields = (others r.fields).map Field.trimmed) ∧
    (125 < (others r.fields).length →
      Response.decode (r.encode j.id left) = .error (.malformed .tooManyFields)) := by
  have hwritten := r.length_written j.id left
  refine ⟨ofOctets?_sixPlaces left, left.exists_sixPlaces, ?_, ?_⟩
  · intro hroom hb
    have hdecode := Response.decode_of_room ⟨r.status, .http11, r.labelled j.id left, r.body⟩
      (hwritten ▸ Nat.add_le_add_right hroom 3) hb
    refine ⟨_, hdecode, r.relays left (Job.id_of_decode hj).2, ?_⟩
    rw [others_withLength, others_labelled]
  · intro hroom
    exact Response.decode_of_no_room ⟨r.status, .http11, r.labelled j.id left, r.body⟩
      (hwritten ▸ Nat.add_lt_add_right hroom 3)

namespace ResultExample

def request : Octets :=
  Octets.ofAscii "GET http://t/ HTTP/1.1\r\nid: \t" ++ [106, 0xC3, 0xA9, 32] ++
    Octets.ofAscii "\r\nId: 9\r\n\r\n"

def result : ScrapeResult where
  status := .ok
  fields := .ofList [⟨.id, .number 1⟩, ⟨.contentLength, .number 9⟩, ⟨.id, .empty⟩,
    ⟨remainingField, .empty⟩, ⟨.te, { octets := [32, 97, 9], valid := rfl }⟩,
    ⟨.connection, .empty⟩, ⟨.te, .number 2⟩]
  body := Octets.ofAscii "up 1\n"

def left : Duration := ⟨2_500_000_000, by decide⟩

end ResultExample

open ResultExample in
theorem Job.decode_encode_result_blanks :
    ∃ j m, Job.decode request = .ok j ∧ Response.decode (result.encode j.id left) = .ok m ∧
      m.body = result.body ∧ (m.fields.values .id).map (·.octets) = [[106, 0xC3, 0xA9]] ∧
      (m.fields.values remainingField).map (·.octets) =
        [Octets.ofAscii "2.500000"] ∧
      (m.fields.values .te).map (·.octets) = [[97], [50]] := by
  have hread : (Job.decode request).toOption.map (·.id.octets) = some [106, 0xC3, 0xA9] := by
    decide +kernel
  obtain ⟨j, hj, hid⟩ := Option.map_eq_some_iff.mp hread
  have hj := eq_ok_of_toOption hj
  obtain ⟨-, -, hroom, -⟩ := Job.decode_encode_result hj left result
  obtain ⟨m, hm, hrelays, -⟩ := hroom (by decide) (by decide)
  refine ⟨j, m, hj, hm, hrelays.body, ?_, ?_, ?_⟩
  · rw [hrelays.id, hid]
  · have htext : Utf8.encode left.sixPlaces = Octets.ofAscii "2.500000" := by decide +kernel
    rw [hrelays.left, htext]
  · rw [hrelays.kept _ (by decide)]
    decide +kernel

end ScrapeCourier
