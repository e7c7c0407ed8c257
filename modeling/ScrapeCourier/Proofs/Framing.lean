import ScrapeCourier.Proofs.Cut
import ScrapeCourier.Proofs.Digits
import ScrapeCourier.Proofs.FieldLines

namespace ScrapeCourier

namespace Octets

theorem trimBlanks_of_not_isBlank {s : Octets} (h : ∀ b ∈ s, Octet.isBlank b = false) :
    s.trimBlanks = s := by
  rw [trimBlanks, Cut.dropWhile_of_forall h,
    Cut.dropWhile_of_forall fun b hb => h b (List.mem_reverse.mp hb), List.reverse_reverse]

end Octets

namespace Http

namespace FieldValue

def number (n : Nat) : FieldValue where
  octets := Utf8.encode (Unsigned.text n)
  valid := List.all_eq_true.mpr fun b hb => (Octet.of_isDigit
    (List.all_eq_true.mp (Unsigned.all_isDigit_encode_text n) b hb)).1

variable (n : Nat)

theorem trimmed_number : (number n).trimmed = number n := by
  have h : (number n).octets.trimBlanks = (number n).octets :=
    Octets.trimBlanks_of_not_isBlank fun b hb => (Octet.of_isDigit
      (List.all_eq_true.mp (Unsigned.all_isDigit_encode_text n) b hb)).2.1
  simp only [trimmed, h]
  rfl

theorem text?_number : (number n).text? = some (Unsigned.text n) := by
  have hv : (number n).octets.all Octet.isVisible :=
    List.all_eq_true.mpr fun b hb => (Octet.of_isDigit
      (List.all_eq_true.mp (Unsigned.all_isDigit_encode_text n) b hb)).2.2
  rw [text?, if_pos hv, number, Utf8.toChars_encode_of_ascii (Unsigned.ascii_text n)]

end FieldValue

theorem Framing.contentLength?_number {n : Nat} (h : n < UInt64.size) :
    contentLength? (.number n) = some n := by
  rw [contentLength?, FieldValue.text?_number, Option.bind_some, Unsigned.read?_text h]

def lengthField (body : Octets) : Field := ⟨.contentLength, .number body.length⟩

theorem encodeContentLength_eq (body : Octets) :
    encodeContentLength body = (lengthField body).encode := by
  have h : Octets.ofAscii "Content-Length" = FieldName.contentLength.canonical := by decide
  rw [encodeContentLength, h]
  rfl

theorem trimmed_lengthField (body : Octets) : (lengthField body).trimmed = lengthField body := by
  rw [Field.trimmed, lengthField, FieldValue.trimmed_number]

/-- The fields that neither frame the body nor concern the connection. -/
def Fields.kept (h : Fields) : List Field :=
  h.toList.filter fun f => !([.contentLength, .transferEncoding, .connection].contains f.name)

namespace Fields

variable (h : Fields)

theorem toList_carried : h.carried.toList = h.kept := by
  rw [carried, toList_filter, kept]
  exact List.filter_congr fun f _ => by simp [isFramingField, ← Bool.or_assoc]

theorem encode_eq : h.encode = h.kept.flatMap Field.encode := by
  rw [← toList_carried]
  rfl

theorem kept_group (n : FieldName) (v : FieldValue) (vs : List FieldValue) (hnd)
    (hn : [FieldName.contentLength, .transferEncoding, .connection].contains n = false) :
    kept ⟨[⟨n, v, vs⟩], hnd⟩ = (v :: vs).map (⟨n, ·⟩) := by
  have ht : toList ⟨[⟨n, v, vs⟩], hnd⟩ = (v :: vs).map (⟨n, ·⟩) := List.append_nil _
  rw [kept, ht]
  apply List.filter_eq_self.mpr
  intro f hf
  obtain ⟨_, _, rfl⟩ := List.mem_map.mp hf
  exact congrArg not hn

theorem not_isFramingField_of_mem_kept {f : Field} (hf : f ∈ h.kept.map Field.trimmed) :
    isFramingField f.name = false := by
  obtain ⟨g, hg, rfl⟩ := List.mem_map.mp hf
  rw [← toList_carried, carried, toList_filter] at hg
  have hn := (List.mem_filter.mp hg).2
  rwa [Bool.not_eq_true'] at hn

def withLength (body : Octets) : Fields :=
  h.carried.trimmed.append .contentLength (lengthField body).value

theorem toList_withLength (body : Octets) :
    (h.withLength body).toList = h.kept.map Field.trimmed ++ [lengthField body] := by
  have hn : h.carried.trimmed.has .contentLength = false := by
    rw [has_trimmed, carried, has_filter]
    rfl
  rw [withLength, toList_append_of_not_has hn, toList_trimmed, toList_carried]
  rfl

end Fields

namespace Framing

variable {h : Fields} {k : List Field}

theorem not_isChunked (hk : ∀ f ∈ h.toList, f.name ≠ .transferEncoding) : isChunked h = false := by
  have hv : h.values .transferEncoding = [] := by
    rw [Fields.values_eq, Field.filter_eq_nil hk, List.map_nil]
  rw [isChunked, hv]
  rfl

theorem isFramingField_cases {n : FieldName} (hn : isFramingField n = false) :
    n ≠ .contentLength ∧ n ≠ .transferEncoding := by
  simp only [isFramingField, Bool.or_eq_false_iff, decide_eq_false_iff_not] at hn
  exact hn.1

theorem ofFields_of_length (other : Framing) {body : Octets}
    (hk : ∀ f ∈ k, isFramingField f.name = false)
    (hh : h.toList = k ++ [lengthField body]) (hb : body.length < UInt64.size) :
    ofFields other h = .ok (.counted body.length) := by
  have hc : isChunked h = false := by
    apply not_isChunked
    intro f hf
    rw [hh, List.mem_append, List.mem_singleton] at hf
    rcases hf with hf | rfl
    · exact (isFramingField_cases (hk f hf)).2
    · simp only [lengthField]
      decide
  have hl : h.first? .contentLength = some (.number body.length) := by
    have hn : ∀ f ∈ k, f.name ≠ .contentLength := by
      intro f hf
      exact (isFramingField_cases (hk f hf)).1
    rw [Fields.first?, Fields.values_eq, hh, List.filter_append, Field.filter_eq_nil hn]
    rfl
  simp only [ofFields, hc, Bool.false_eq_true, if_false, hl, contentLength?_number hb]

theorem ofFields_of_none (other : Framing) (hk : ∀ f ∈ h.toList, isFramingField f.name = false) :
    ofFields other h = .ok other := by
  have hc : isChunked h = false := by
    apply not_isChunked
    intro f hf
    exact (isFramingField_cases (hk f hf)).2
  have hl : h.first? .contentLength = none := by
    have hn : ∀ f ∈ h.toList, f.name ≠ .contentLength := by
      intro f hf
      exact (isFramingField_cases (hk f hf)).1
    rw [Fields.first?, Fields.values_eq, Field.filter_eq_nil hn]
    rfl
  simp only [ofFields, hc, Bool.false_eq_true, if_false, hl]

theorem read_counted (body : Octets) : (counted body.length).read body = .ok body := by
  simp [read]

end Framing

end Http

end ScrapeCourier
