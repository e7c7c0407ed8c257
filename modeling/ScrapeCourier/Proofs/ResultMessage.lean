import ScrapeCourier.Agent.Task
import ScrapeCourier.Proofs.ReadFields
import ScrapeCourier.Proofs.ResponseRoundTrip

namespace ScrapeCourier

open Http

namespace Http.Fields

variable (h : Fields)

theorem values_withLength {n : FieldName} (body : Octets)
    (hn : [FieldName.contentLength, .transferEncoding, .connection].contains n = false) :
    (h.withLength body).values n = (h.values n).map FieldValue.trimmed := by
  have hlength : [lengthField body].filter (·.name = n) = [] := by
    apply Field.filter_eq_nil
    intro f hf he
    rw [List.mem_singleton.mp hf] at he
    rw [← he] at hn
    exact absurd hn (by simp only [lengthField]; decide)
  have hkept : h.kept.filter (·.name = n) = h.toList.filter (·.name = n) := by
    rw [kept, List.filter_filter]
    apply List.filter_congr
    intro f _
    by_cases hf : f.name = n
    · rw [hf, hn, decide_eq_true rfl]
      rfl
    · rw [decide_eq_false hf, Bool.false_and]
  rw [values_eq, values_eq, toList_withLength, List.filter_append, hlength, List.append_nil,
    List.filter_map, List.map_map, List.map_map, ← hkept]
  rfl

theorem values_withLength_of_framing {n : FieldName} (body : Octets)
    (hn : [FieldName.contentLength, .transferEncoding, .connection].contains n) :
    (h.withLength body).values n = if .contentLength = n then [.number body.length] else [] := by
  have hkept : (h.kept.map Field.trimmed).filter (·.name = n) = [] := by
    apply Field.filter_eq_nil
    intro f hf
    obtain ⟨g, hg, rfl⟩ := List.mem_map.mp hf
    rintro rfl
    rw [kept, List.mem_filter, Bool.not_eq_true'] at hg
    exact absurd hn (by rw [Bool.not_eq_true]; exact hg.2)
  rw [values_eq, toList_withLength, List.filter_append, hkept, List.nil_append]
  by_cases hl : FieldName.contentLength = n
  · subst hl
    rfl
  · rw [if_neg hl, Field.filter_eq_nil, List.map_nil]
    intro f hf
    rw [List.mem_singleton.mp hf]
    exact hl

end Http.Fields

theorem Unsigned.all_isDigit_padded (places n : Nat) : (padded places n).all Ascii.isDigit := by
  induction places generalizing n with
  | zero => rfl
  | succ k ih =>
    rw [padded, List.all_append, ih]
    simp [isDigit_digitChar (Nat.mod_lt n (by decide : 10 > 0))]

theorem Duration.all_encode_sixPlaces (d : Duration) :
    (Utf8.encode d.sixPlaces).all fun b => isFieldOctet b && !Octet.isBlank b := by
  have hdigits {s : List Char} (hs : s.all Ascii.isDigit) :
      (Utf8.encode s).all fun b => isFieldOctet b && !Octet.isBlank b := by
    rw [Utf8.encode_of_ascii fun c hc => Unsigned.ascii_of_isDigit (List.all_eq_true.mp hs c hc),
      List.all_map, List.all_eq_true]
    intro c hc
    obtain ⟨hfield, hblank, -⟩ :=
      Octet.of_isDigit (Unsigned.toUInt8_isDigit (List.all_eq_true.mp hs c hc))
    simp [hfield, hblank]
  rw [sixPlaces, Utf8.encode_append, List.all_append, hdigits (Unsigned.all_isDigit_text _)]
  change (isFieldOctet 46 && !Octet.isBlank 46 && (Utf8.encode (Unsigned.padded 6 _)).all _) = true
  rw [hdigits (Unsigned.all_isDigit_padded 6 _)]
  decide

namespace ScrapeResult

variable (id : FieldValue) (left : Duration) (r : ScrapeResult)

def labelled : Fields := (r.fields.insert .id id).insert remainingField (remainingValue left)

theorem length_labelled : (r.labelled id left).toList.length ≤ r.fields.toList.length + 2 := by
  have h₁ := Fields.length_toList_insert_le (h := r.fields) (n := .id) (v := id)
  have h₂ := Fields.length_toList_insert_le (h := r.fields.insert .id id) (n := remainingField)
    (v := remainingValue left)
  exact h₂.trans (Nat.succ_le_succ h₁)

theorem values_labelled : (r.labelled id left).values .id = [id] := by
  rw [labelled, Fields.values_insert_of_ne (by decide), Fields.values_insert_self]

theorem ofOctets?_sixPlaces :
    FieldValue.ofOctets? (Utf8.encode left.sixPlaces) = some (remainingValue left) := by
  have hvalid : (Utf8.encode left.sixPlaces).all isFieldOctet := by
    apply List.all_eq_true.mpr
    intro b hb
    exact (Bool.and_eq_true_iff.mp (List.all_eq_true.mp left.all_encode_sixPlaces b hb)).1
  rw [remainingValue, FieldValue.ofOctets?, dif_pos hvalid]
  rfl

theorem octets_remainingValue :
    (remainingValue left).octets = Utf8.encode left.sixPlaces ∧ (remainingValue left).IsTrimmed := by
  have hoctets := FieldValue.octets_of_ofOctets? (ofOctets?_sixPlaces left)
  refine ⟨hoctets, ?_⟩
  rw [FieldValue.IsTrimmed, hoctets]
  apply Octets.trimBlanks_of_not_isBlank
  intro b hb
  simpa using (Bool.and_eq_true_iff.mp (List.all_eq_true.mp left.all_encode_sixPlaces b hb)).2

theorem length_body_le : r.body.length ≤ (r.encode id left).length := by
  rw [encode, Response.encode_eq]
  simp only [List.length_append]
  omega

/-- The names whose fields in a message are not those of the result. -/
def isWritten (n : FieldName) : Bool :=
  [.contentLength, .transferEncoding, .connection, .id, remainingField].contains n

/-- A message that holds a result, with the fields of its own in the place of any such fields. -/
structure Relays (m : Response) (id : FieldValue) (left : Duration) (r : ScrapeResult) : Prop where
  status : m.status = r.status
  body : m.body = r.body
  id : (m.fields.values .id).map (·.octets) = [id.octets]
  left : (m.fields.values remainingField).map (·.octets) = [Utf8.encode left.sixPlaces]
  length : m.fields.values .contentLength = [.number r.body.length]
  framing : m.fields.values .transferEncoding = [] ∧ m.fields.values .connection = []
  kept : ∀ n, isWritten n = false → m.fields.values n = (r.fields.values n).map FieldValue.trimmed

theorem relays {id : FieldValue} (hid : id.IsTrimmed) :
    Relays ⟨r.status, .http11, (r.labelled id left).withLength r.body, r.body⟩ id left r where
  status := rfl
  body := rfl
  id := by
    rw [Fields.values_withLength _ _ (by decide), values_labelled]
    exact congrArg ([·]) hid
  left := by
    obtain ⟨hvalue, htrimmed⟩ := octets_remainingValue left
    rw [Fields.values_withLength _ _ (by decide), labelled, Fields.values_insert_self]
    exact congrArg ([·]) (htrimmed.trans hvalue)
  length := Fields.values_withLength_of_framing _ _ (by decide)
  framing := ⟨Fields.values_withLength_of_framing _ _ (by decide),
    Fields.values_withLength_of_framing _ _ (by decide)⟩
  kept := by
    intro n hn
    simp only [isWritten, List.contains_cons, List.contains_nil, Bool.or_eq_false_iff,
      beq_eq_false_iff_ne] at hn
    obtain ⟨hlength, hcoding, hconnection, hid, hleft, -⟩ := hn
    rw [Fields.values_withLength, labelled, Fields.values_insert_of_ne hleft,
      Fields.values_insert_of_ne hid]
    simp [hlength, hcoding, hconnection]

theorem decode_encode {id : FieldValue} (hid : id.IsTrimmed)
    (hroom : r.fields.toList.length ≤ Wire.maxFields)
    (hlength : (r.encode id left).length < UInt64.size) :
    ∃ m, Response.decode (r.encode id left) = .ok m ∧ Relays m id left r := by
  have hb : r.body.length < UInt64.size := Nat.lt_of_le_of_lt (r.length_body_le id left) hlength
  have hkept : (r.labelled id left).kept.length ≤ 102 :=
    (List.length_filter_le _ _).trans ((r.length_labelled id left).trans (Nat.add_le_add_right hroom 2))
  refine ⟨_, Response.decode_of_room ⟨r.status, .http11, r.labelled id left, r.body⟩ ?_ hb,
    r.relays left hid⟩
  rw [Response.written, List.length_append]
  exact (Nat.add_le_add_right hkept 1).trans (by decide)

end ScrapeResult

end ScrapeCourier
