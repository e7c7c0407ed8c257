import ScrapeCourier.Http.Message
import ScrapeCourier.Proofs.Multimap
import ScrapeCourier.Proofs.Octet

namespace ScrapeCourier.Http

namespace Reading

variable {ε α β : Type}

@[simp] theorem bind_done (a : α) (s : Octets) (f : α → Octets → Reading ε β) :
    (done a s : Reading ε α).bind f = f a s := rfl

@[simp] theorem map_done (a : α) (s : Octets) (f : α → β) :
    (done a s : Reading ε α).map f = done (f a) s := rfl

@[simp] theorem map_malformed (e : ε) (f : α → β) :
    (malformed e : Reading ε α).map f = malformed e := rfl

end Reading

namespace Reader

variable {ε α β : Type}

@[simp] theorem bind_apply (r : Reader ε α) (f : α → Reader ε β) (s : Octets) :
    (r >>= f) s = (r s).bind fun a t => f a t := rfl

@[simp] theorem pure_apply (a : α) (s : Octets) : (pure a : Reader ε α) s = .done a s := rfl

@[simp] theorem octet_cons (b : UInt8) (s : Octets) : octet (b :: s) = (.done b s : Reading ε UInt8) :=
  rfl

@[simp] theorem ite_run (c : Prop) [Decidable c] (q r : Reader ε α) (s : Octets) :
    (if c then q else r) s = if c then q s else r s := by
  split <;> rfl

theorem run_append {p : UInt8 → Bool} {xs : Octets} {b : UInt8} (hx : xs.all p) (hb : p b = false)
    (s : Octets) : run p (xs ++ b :: s) = (.done (xs, b) s : Reading ε (Octets × UInt8)) := by
  induction xs with
  | nil => simp [run, hb]
  | cons x xs ih =>
    rw [List.all_cons, Bool.and_eq_true] at hx
    rw [List.cons_append, run, if_pos hx.1, ih hx.2]
    rfl

@[simp] theorem expect_cons (e : ε) (b : UInt8) (s : Octets) :
    expect e b (b :: s) = (.done () s : Reading ε Unit) := by
  simp [expect]

theorem literal_append (e : ε) (xs s : Octets) :
    literal e xs (xs ++ s) = (.done () s : Reading ε Unit) := by
  induction xs with
  | nil => rfl
  | cons x xs ih =>
    rw [literal, List.cons_append, bind_apply, expect_cons]
    exact ih

theorem lineEnd_crlf (e : ε) (s : Octets) :
    lineEnd e Octet.cr (Octet.lf :: s) = (.done () s : Reading ε Unit) := by
  rw [lineEnd, if_neg (by decide), if_pos rfl, expect_cons]

end Reader

namespace Head

theorem startLine_cons {b : UInt8} (h₁ : b ≠ Octet.lf) (h₂ : b ≠ Octet.cr) (s : Octets) :
    startLine (b :: s) = .done b s := by
  rw [startLine.eq_def]
  simp only [if_neg h₁, if_neg h₂]

theorem versionFrom_http11 (s : Octets) :
    versionFrom 72 (Octets.ofAscii "TTP/1." ++ 49 :: s) = .done .http11 s := by
  simp [versionFrom, Reader.literal_append]

end Head

theorem Octets.trimBlanks_sublist (s : Octets) : s.trimBlanks.Sublist s := by
  have h := (List.dropWhile_sublist Octet.isBlank (l := (s.dropWhile Octet.isBlank).reverse)).reverse
  rw [List.reverse_reverse] at h
  exact h.trans (List.dropWhile_sublist _)

theorem Octets.trimBlanks_space_cons (s : Octets) :
    Octets.trimBlanks (Octet.space :: s) = s.trimBlanks := rfl

def FieldValue.trimmed (v : FieldValue) : FieldValue where
  octets := v.octets.trimBlanks
  valid := List.all_eq_true.mpr fun b hb =>
    List.all_eq_true.mp v.valid b ((Octets.trimBlanks_sublist v.octets).subset hb)

theorem FieldValue.ofOctets?_trimBlanks (v : FieldValue) :
    ofOctets? v.octets.trimBlanks = some v.trimmed :=
  dif_pos v.trimmed.valid

def Field.trimmed (f : Field) : Field := ⟨f.name, f.value.trimmed⟩

namespace Fields

def trimmed (h : Fields) : Fields where
  groups := h.groups.map fun g => ⟨g.name, g.first.trimmed, g.more.map FieldValue.trimmed⟩
  nodup := by
    rw [List.map_map]
    exact h.nodup

theorem toList_trimmed (h : Fields) : h.trimmed.toList = h.toList.map Field.trimmed := by
  simp only [toList, trimmed, List.map_flatMap, List.flatMap_map]
  congr
  funext g
  simp [FieldGroup.fields, FieldGroup.values, Field.trimmed]

theorem has_trimmed (h : Fields) (n : FieldName) : h.trimmed.has n = h.has n := by
  simp [has, trimmed, Function.comp_def]

def prepend (h : Fields) (n : FieldName) (v : FieldValue) (hn : h.has n = false) : Fields where
  groups := ⟨n, v, []⟩ :: h.groups
  nodup := List.nodup_cons.mpr ⟨has_eq_false_iff.mp hn, h.nodup⟩

theorem toList_prepend {h : Fields} {n : FieldName} {v : FieldValue} (hn : h.has n = false) :
    (h.prepend n v hn).toList = ⟨n, v⟩ :: h.toList := rfl

end Fields

namespace FieldName

theorem map_toLower_capitalized {s : Octets} (h : s.all (!Octet.isUpper ·)) (start : Bool) :
    (capitalized start s).map Octet.toLower = s := by
  induction s generalizing start with
  | nil => rfl
  | cons b s ih =>
    rw [List.all_cons, Bool.and_eq_true, Bool.not_eq_true'] at h
    rw [capitalized, List.map_cons, ih h.2]
    cases start with
    | true => rw [if_pos rfl, Octet.toLower_toUpper h.1]
    | false => rw [if_neg (by decide), Octet.toLower_of_not_isUpper h.1]

theorem all_isToken_capitalized {s : Octets} (h : s.all isToken) (start : Bool) :
    (capitalized start s).all isToken := by
  induction s generalizing start with
  | nil => rfl
  | cons b s ih =>
    rw [List.all_cons, Bool.and_eq_true] at h
    rw [capitalized, List.all_cons, ih h.2, Bool.and_true]
    split
    · exact Octet.isToken_toUpper h.1
    · exact h.1

variable (n : FieldName)

theorem all_isToken : n.octets.all isToken :=
  List.all_eq_true.mpr fun b hb => (Bool.and_eq_true_iff.mp (List.all_eq_true.mp n.token b hb)).1

theorem all_not_isUpper : n.octets.all (!Octet.isUpper ·) :=
  List.all_eq_true.mpr fun b hb => (Bool.and_eq_true_iff.mp (List.all_eq_true.mp n.token b hb)).2

theorem ofOctets?_canonical : ofOctets? n.canonical = some n := by
  rw [ofOctets?, canonical, map_toLower_capitalized n.all_not_isUpper]
  exact dif_pos ⟨n.nonempty, n.short, n.token⟩

theorem exists_canonical_eq_cons : ∃ b s, n.canonical = b :: s ∧ isToken b ∧ s.all isToken := by
  have h := all_isToken_capitalized n.all_isToken true
  cases hs : n.octets with
  | nil => exact absurd hs n.nonempty
  | cons b s =>
    rw [hs, capitalized, List.all_cons, Bool.and_eq_true] at h
    exact ⟨_, _, by rw [canonical, hs, capitalized], h⟩

end FieldName

def Field.encode (f : Field) : Octets := encodeLine f.name.canonical f.value.octets

def Field.line (f : Field) : FieldLine := ⟨f.name.canonical, f.value.octets.trimBlanks⟩

theorem Field.field_line (f : Field) : f.line.field = .ok f.trimmed := by
  rw [FieldLine.field, line, FieldName.ofOctets?_canonical, FieldValue.ofOctets?_trimBlanks]
  rfl

namespace Head

open Reader

theorem fieldLineFrom_encode {f : Field} {b : UInt8} {s : Octets} (hn : f.name.canonical = b :: s)
    (hb : isToken b) (hs : s.all isToken) (t : Octets) :
    fieldLineFrom b (s ++ Octet.colon :: ((Octet.space :: f.value.octets) ++
      Octet.cr :: Octet.lf :: t)) = .done f.line t := by
  have hv : (Octet.space :: f.value.octets).all isFieldOctet := by
    rw [List.all_cons, Octet.isFieldOctet_space, f.value.valid]
    rfl
  simp only [fieldLineFrom, ite_run, hb, Bool.not_true, Bool.false_eq_true, if_false, bind_apply,
    run_append hs Octet.not_isToken_colon, Reading.bind_done, ne_eq, not_true_eq_false,
    run_append hv Octet.not_isFieldOctet_cr, lineEnd_crlf, pure_apply,
    Octets.trimBlanks_space_cons, Field.line, hn]

theorem fieldLines_crlf (room : Nat) (t : Octets) : fieldLines room (crlf ++ t) = .done [] t := by
  change fieldLines room (Octet.cr :: Octet.lf :: t) = _
  rw [fieldLines]
  simp [lineEnd_crlf]

/-- A line is read before it is found that there is no room for it. -/
theorem fieldLines_encode_cons (f : Field) (room : Nat) (t : Octets) :
    fieldLines room (f.encode ++ t) = match room with
      | 0 => .malformed .tooManyFields
      | k + 1 => (fieldLines k t).map (f.line :: ·) := by
  obtain ⟨b, s, hn, hb, hs⟩ := f.name.exists_canonical_eq_cons
  have e : f.encode ++ t = b :: (s ++ Octet.colon :: ((Octet.space :: f.value.octets) ++
      Octet.cr :: Octet.lf :: t)) := by
    simp [Field.encode, encodeLine, hn, crlf, Octets.ofAscii]
  have hb' : (b = Octet.lf || b = Octet.cr) = false := by
    simp [Octet.ne_lf_of_isToken hb, Octet.ne_cr_of_isToken hb]
  rw [e, fieldLines]
  simp only [bind_apply, octet_cons, Reading.bind_done, hb', Bool.false_eq_true, ite_run,
    if_false, fieldLineFrom_encode hn hb hs]
  cases room <;> rfl

theorem fieldLines_encode (fs : List Field) (room : Nat) (t : Octets) :
    fieldLines room (fs.flatMap Field.encode ++ (crlf ++ t)) =
      if fs.length ≤ room then .done (fs.map Field.line) t else .malformed .tooManyFields := by
  induction fs generalizing room with
  | nil => simp [fieldLines_crlf]
  | cons f fs ih =>
    rw [List.flatMap_cons, List.append_assoc, fieldLines_encode_cons]
    cases room with
    | zero => simp
    | succ k =>
      simp only [ih, List.length_cons, Nat.add_le_add_iff_right]
      split <;> rfl

end Head

theorem Fields.ofLines_map_line {fs : List Field} {h : Fields}
    (hf : fs.map Field.trimmed = h.toList) : ofLines (fs.map Field.line) = .ok h := by
  have hm : (fs.map Field.line).mapM FieldLine.field = .ok (fs.map Field.trimmed) := by
    rw [List.mapM_map, Function.comp_def]
    simp only [Field.field_line]
    exact List.mapM_pure
  rw [ofLines, hm, hf]
  exact congrArg Except.ok h.ofList_toList

end ScrapeCourier.Http
