import ScrapeCourier.Proofs.Digits
import ScrapeCourier.Proofs.Domain
import ScrapeCourier.Proofs.PunycodeRoundTrip

namespace ScrapeCourier

namespace Idna

/-- The characters that the ASCII form of a label may be of: the mapping keeps them. -/
def isKept (c : Char) : Bool :=
  c.toNat < 0x80 && Ascii.toLower c = c && !Label.isForbidden c && c != '.'

theorem isKept_iff {c : Char} : isKept c = true ↔
    c.toNat < 0x80 ∧ Ascii.toLower c = c ∧ Label.isForbidden c = false ∧ c ≠ '.' := by
  simp only [isKept, Bool.and_eq_true, decide_eq_true_eq, Bool.not_eq_true', bne_iff_ne, and_assoc]

theorem isKept_digitChar {v : Nat} (h : v < 36) : isKept (Punycode.digitChar v) := by
  have key : ∀ v : Fin 36, isKept (Punycode.digitChar v) := by decide
  exact key ⟨v, h⟩

theorem isKept_of_isValid {l : List Char} (hl : Label.isValid l) {c : Char} (hc : c ∈ l)
    (h : c.toNat < 0x80) : isKept c := by
  simp only [Label.isValid, Bool.and_eq_true] at hl
  have hv := List.all_eq_true.mp hl.1.1.1 c hc
  simp only [Bool.and_eq_true, Bool.not_eq_true', bne_iff_ne] at hv
  obtain ⟨⟨hmap, hforbidden⟩, hdot⟩ := hv
  refine isKept_iff.mpr ⟨h, ?_, hforbidden, hdot⟩
  simpa [Mapping.isValid, Mapping.replace?, h] using hmap

theorem isKept_of_mem_writeLabel {l : List Char} (hl : Label.isValid l) {c : Char}
    (hc : c ∈ writeLabel l) : isKept c := by
  rw [writeLabel] at hc
  split at hc
  next hall =>
    exact isKept_of_isValid hl hc (of_decide_eq_true (List.all_eq_true.mp hall c hc))
  · obtain hc | hc := List.mem_append.mp hc
    · have hmark : ∀ c ∈ "xn--".toList, isKept c := by decide
      exact hmark c hc
    · obtain ⟨hc, hlt⟩ | rfl | ⟨v, hv, rfl⟩ := Punycode.mem_encode hc
      · exact isKept_of_isValid hl hc hlt
      · decide
      · exact isKept_digitChar hv

theorem readLabel?_writeLabel {k l : List Char} (h : readLabel? k = some l) :
    readLabel? (writeLabel l) = some l := by
  rw [writeLabel]
  split
  next hall =>
    unfold readLabel? at h
    split at h
    next s =>
      -- what is read from the ASCII form is not all ASCII
      have hwide := (Option.filter_eq_some_iff.mp h).2
      obtain ⟨c, hc, hle⟩ := List.any_eq_true.mp hwide
      have hlt := List.all_eq_true.mp hall c hc
      rw [decide_eq_true_eq] at hle hlt
      omega
    next hx =>
      cases h
      rw [readLabel?.eq_2 k hx]
  next hall =>
    change (Punycode.decode? (Punycode.encode l)).filter _ = some l
    rw [Punycode.decode?_encode, Option.filter_some, if_pos]
    simpa using hall

theorem mapM_replace? {s : List Char} (h : ∀ c ∈ s, c = '.' ∨ isKept c) :
    s.mapM Mapping.replace? = some (s.map ([·])) ∧ Normal.normalize s = s := by
  have hascii : ∀ c ∈ s, c.toNat < 0x80 ∧ Ascii.toLower c = c := by
    intro c hc
    obtain rfl | hk := h c hc
    · decide
    · exact ⟨(isKept_iff.mp hk).1, (isKept_iff.mp hk).2.1⟩
  constructor
  · clear h
    induction s with
    | nil => rfl
    | cons c s ih =>
      rw [List.forall_mem_cons] at hascii
      rw [List.mapM_cons, ih hascii.2, Mapping.replace?, if_pos hascii.1.1, hascii.1.2]
      rfl
  · rw [Normal.normalize, if_pos]
    rw [List.all_eq_true]
    intro c hc
    rw [decide_eq_true_eq]
    exact Nat.lt_trans (hascii c hc).1 (by decide)

variable {ls : List (List Char)}

theorem mem_written (hv : ls.all Label.isValid) {c : Char}
    (hc : c ∈ ['.'].intercalate (ls.map writeLabel)) : c = '.' ∨ isKept c := by
  obtain hdot | ⟨w, hw, hc⟩ := Cut.mem_intercalate hc
  · exact .inl hdot
  · obtain ⟨l, hl, rfl⟩ := List.mem_map.mp hw
    exact .inr (isKept_of_mem_writeLabel (List.all_eq_true.mp hv l hl) hc)

theorem toAscii?_written (hne : ls ≠ []) (hread : ∀ l ∈ ls, ∃ k, readLabel? k = some l)
    (hv : ls.all Label.isValid)
    (hd : (!ls.any Label.runsRightToLeft || ls.all Label.keepsDirection) = true) :
    toAscii? (['.'].intercalate (ls.map writeLabel)) =
      some (['.'].intercalate (ls.map writeLabel)) := by
  obtain ⟨hmap, hnormal⟩ := mapM_replace? fun c => mem_written hv
  have hsplit : (['.'].intercalate (ls.map writeLabel)).splitOn '.' = ls.map writeLabel := by
    apply List.splitOn_intercalate
    · intro w hw hdot
      obtain ⟨l, hl, rfl⟩ := List.mem_map.mp hw
      exact (isKept_iff.mp (isKept_of_mem_writeLabel (List.all_eq_true.mp hv l hl) hdot)).2.2.2 rfl
    · rwa [ne_eq, List.map_eq_nil_iff]
  have hlabels : (ls.map writeLabel).mapM readLabel? = some ls :=
    mapM_map_eq_some fun l hl => (hread l hl).elim fun _ => readLabel?_writeLabel
  simp only [toAscii?, hmap, Option.bind_eq_bind, Option.bind_some, ← List.flatMap_def,
    List.flatMap_singleton', hnormal, hsplit, hlabels, hv, hd, Bool.and_self, if_true]
  rfl

theorem exists_labels {s t : List Char} (h : toAscii? s = some t) :
    ∃ ls, ls ≠ [] ∧ (∀ l ∈ ls, ∃ k, readLabel? k = some l) ∧ ls.all Label.isValid ∧
      (!ls.any Label.runsRightToLeft || ls.all Label.keepsDirection) = true ∧
      t = ['.'].intercalate (ls.map writeLabel) := by
  simp only [toAscii?] at h
  obtain ⟨mapped, -, h⟩ := Option.bind_eq_some_iff.mp h
  obtain ⟨ls, hls, h⟩ := Option.bind_eq_some_iff.mp h
  split at h
  next hv =>
    cases h
    rw [Bool.and_eq_true] at hv
    refine ⟨ls, ?_, ?_, hv.1, hv.2, rfl⟩
    · rintro rfl
      obtain ⟨w, hw⟩ := List.exists_mem_of_ne_nil _ (List.splitOnP_ne_nil _ _)
      obtain ⟨l, hl, -⟩ := exists_of_mapM_eq_some hls hw
      cases hl
    · intro l hl
      obtain ⟨k, -, hk⟩ := exists_of_mem_mapM hls hl
      exact ⟨k, hk⟩
  · cases h

theorem toAscii?_toAscii? {s t : List Char} (h : toAscii? s = some t) : toAscii? t = some t := by
  obtain ⟨ls, hne, hread, hv, hd, rfl⟩ := exists_labels h
  exact toAscii?_written hne hread hv hd

theorem mem_of_toAscii? {s t : List Char} (h : toAscii? s = some t) {c : Char} (hc : c ∈ t) :
    c = '.' ∨ isKept c := by
  obtain ⟨ls, -, -, hv, -, rfl⟩ := exists_labels h
  exact mem_written hv hc

theorem mem_digits {c : Char} (h : Ascii.isDigit c) : c ∈ "0123456789".toList := by
  have key : ∀ d : Fin 10, Char.ofNat (48 + d) ∈ "0123456789".toList := by decide
  rw [Unsigned.isDigit_iff] at h
  have hc : c = Char.ofNat (48 + (c.toNat - 48)) := by
    rw [Nat.add_sub_cancel' h.1, Char.ofNat_toNat]
  rw [hc]
  exact key ⟨c.toNat - 48, by omega⟩

theorem joinersFit_of_ascii {l before : List Char} (h : ∀ c ∈ l, c.toNat < 0x80) :
    Label.joinersFit before l = true := by
  induction l generalizing before with
  | nil => rfl
  | cons c l ih =>
    rw [List.forall_mem_cons] at h
    have hc : ¬(c.toNat == 0x200C || c.toNat == 0x200D) := by
      simp only [Bool.or_eq_true, beq_iff_eq]
      omega
    rw [Label.joinersFit, if_neg hc, ih h.2]
    rfl

theorem isValid_of_digits {l : List Char} (h : ∀ c ∈ l, Ascii.isDigit c) :
    Label.isValid l ∧ Label.runsRightToLeft l = false := by
  have key : ∀ c ∈ "0123456789".toList, (Mapping.isValid c && !Label.isForbidden c && c != '.') ∧
      Label.isMark c = false ∧ "RAN".toList.contains (Label.direction c) = false := by decide
  have hascii : ∀ c ∈ l, c.toNat < 0x80 := fun c hc => Unsigned.ascii_of_isDigit (h c hc)
  constructor
  · have hall : l.all fun c => Mapping.isValid c && !Label.isForbidden c && c != '.' :=
      List.all_eq_true.mpr fun c hc => (key c (mem_digits (h c hc))).1
    have hnormal : Normal.normalize l = l := by
      rw [Normal.normalize, if_pos]
      rw [List.all_eq_true]
      intro c hc
      rw [decide_eq_true_eq]
      exact Nat.lt_trans (hascii c hc) (by decide)
    have hmark : (l.head?.map Label.isMark).getD false = false := by
      cases l with
      | nil => rfl
      | cons c l => exact (key c (mem_digits (h c List.mem_cons_self))).2.1
    rw [Label.isValid, hall, hnormal, hmark, joinersFit_of_ascii hascii, beq_self_eq_true]
    rfl
  · rw [Label.runsRightToLeft, List.any_eq_false]
    intro c hc
    rw [(key c (mem_digits (h c hc))).2.2]
    exact Bool.false_ne_true

theorem toAscii?_of_digits {ls : List (List Char)} (hne : ls ≠ [])
    (h : ∀ l ∈ ls, ∀ c ∈ l, Ascii.isDigit c) :
    toAscii? (['.'].intercalate ls) = some (['.'].intercalate ls) := by
  have hwrite : ls.map writeLabel = ls := by
    rw [List.map_congr_left fun l hl => ?_, List.map_id']
    rw [writeLabel, if_pos]
    rw [List.all_eq_true]
    exact fun c hc => decide_eq_true (Unsigned.ascii_of_isDigit (h l hl c hc))
  have hread (l : List Char) (hl : l ∈ ls) : readLabel? l = some l := by
    apply readLabel?.eq_2
    rintro s rfl
    cases h _ hl 'x' List.mem_cons_self
  have htext := toAscii?_written hne (fun l hl => ⟨l, hread l hl⟩)
    (List.all_eq_true.mpr fun l hl => (isValid_of_digits (h l hl)).1) (by
      rw [Bool.or_eq_true, Bool.not_eq_true', List.any_eq_false]
      refine .inl fun l hl => ?_
      rw [(isValid_of_digits (h l hl)).2]
      exact Bool.false_ne_true)
  rwa [hwrite] at htext

end Idna

end ScrapeCourier
