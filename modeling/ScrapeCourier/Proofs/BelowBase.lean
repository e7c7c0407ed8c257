import ScrapeCourier.Proofs.UrlText

namespace ScrapeCourier.Url

def IsHierarchical (u : Url) : Prop := ∃ ss, u.path = .segments ss

/-- At the same server, with a name behind the whole path. -/
structure IsBelow (v base : Url) (name : List Char) : Prop where
  scheme : v.scheme = base.scheme
  username : v.username = base.username
  password : v.password = base.password
  host : v.host = base.host
  port : v.port = base.port
  path : v.path.text = base.path.text ++ name

structure IsName (w : List Char) : Prop where
  ne_nil : w ≠ []
  letters : ∀ c ∈ w, c ∈ Ascii.smallLetters

namespace Parser

section

variable {w : List Char} {ss : List (List Char)} (hw : IsName w)
include hw

theorem exists_cons_of_isName : ∃ c t, w = c :: t ∧ c ∈ Ascii.smallLetters ∧
    ∀ d ∈ t, d ∈ Ascii.smallLetters := by
  obtain ⟨c, t, rfl⟩ := List.exists_cons_of_ne_nil hw.ne_nil
  exact ⟨c, t, rfl, List.forall_mem_cons.mp hw.letters⟩

theorem isSegment_of_isName (special : Bool) : IsSegment special w := by
  have key : ∀ c ∈ Ascii.smallLetters, ((c.toNat < 0x7F ∧ Percent.inPath c = false) ∧
      ∀ special, isSlash special c = false) ∧ c ≠ '.' ∧ c ≠ '%' := by
    decide
  obtain ⟨c, t, rfl, hc, -⟩ := exists_cons_of_isName hw
  obtain ⟨-, hdot, hpercent⟩ := key c hc
  refine ⟨fun d hd => ?_, ?_, ?_⟩
  · obtain ⟨⟨hplain, hslash⟩, -⟩ := key d (hw.letters d hd)
    exact ⟨hplain, hslash special⟩
  · simp [isDot, hdot.symm, hpercent.symm]
  · simp [isDoubleDot, hdot.symm, hpercent.symm]

theorem clean_of_isName : clean w = w := by
  have key : ∀ c ∈ Ascii.smallLetters, 0x21 ≤ c.toNat := by decide
  exact clean_of_visible fun c hc => key c (hw.letters c hc)

theorem splitScheme?_of_isName : splitScheme? w = none := by
  have key : ∀ c ∈ Ascii.smallLetters, Ascii.isSchemeChar c := by decide
  have hrest : w.dropWhile Ascii.isSchemeChar = [] :=
    List.dropWhile_eq_nil_iff.mpr fun c hc => key c (hw.letters c hc)
  rw [splitScheme?, hrest]
  exact ite_self none

theorem segmentsOf_of_isName (special : Bool) : segmentsOf special w = [w] ∧
    w.dropWhile (!endsPath ·) = [] := by
  have h := segmentsOf_text (List.cons_ne_nil w [])
    (fun v hv => List.mem_singleton.mp hv ▸ (isSegment_of_isName hw special).chars) (t := []) nofun
  rwa [List.intercalate_singleton, List.append_nil] at h

theorem addSegments_of_isName (ss : List (List Char)) : addSegments ss [w] = ss ++ [w] :=
  addSegments_of_isSegment fun _ hv =>
    List.mem_singleton.mp hv ▸ isSegment_of_isName hw false

theorem not_drive_of_isName : startsWithDrive w = false ∧ driveSegments [w] = [w] := by
  have key : ∀ c ∈ Ascii.smallLetters, c ≠ ':' ∧ c ≠ '|' := by decide
  obtain ⟨c, t, rfl, -, ht⟩ := exists_cons_of_isName hw
  cases t with
  | nil => exact ⟨rfl, rfl⟩
  | cons d t =>
    obtain ⟨hcolon, hbar⟩ := key d (ht d List.mem_cons_self)
    constructor
    · simp [startsWithDrive, isDrive, hcolon, hbar]
    · unfold driveSegments
      split
      next h =>
        cases h
        contradiction
      next h =>
        cases h
        contradiction
      · rfl

theorem readFilePath_of_isName (ss : List (List Char)) :
    readFilePath ss w = (ss.dropWhile (·.isEmpty) ++ [w], []) := by
  obtain ⟨hsegments, hrest⟩ := segmentsOf_of_isName hw true
  have hwords : (if ss.isEmpty then driveSegments [w] else [w]) = [w] := by
    rw [(not_drive_of_isName hw).2, ite_self]
  have hlast := Cut.dropWhile_concat (p := (·.isEmpty)) ss (mt List.isEmpty_iff.mp hw.ne_nil)
  simp only [readFilePath, hsegments, hwords, addSegments_of_isName hw, hlast, hrest]
  rw [if_neg (by simp)]

end

end Parser

section

open Url.Parser

def front (u : Url) : List (List Char) :=
  if u.kind = .file then (dropLastSegment (pathSegments u)).dropWhile (·.isEmpty)
  else (pathSegments u).dropLast

def below (base : Url) (leg : List Char) : Url :=
  { base with
    path := .segments ((pathSegments base).dropLast ++ [leg])
    query := none
    fragment := none }

variable {base : Url} {w : List Char} {ss : List (List Char)} (hw : IsName w)
include hw

theorem readRelative_of_isName (hk : base.kind ≠ .file) : readRelative base w =
    .ok { base with path := .segments (base.front ++ [w]), query := none, fragment := none } := by
  obtain ⟨hsegments, hrest⟩ := segmentsOf_of_isName hw base.kind.isSpecial
  have hpath : readPath base.kind.isSpecial (pathSegments base).dropLast w =
      (base.front ++ [w], []) := by
    rw [readPath, hsegments, hrest, addSegments_of_isName hw, front, if_neg hk]
  have key : ∀ c ∈ Ascii.smallLetters, c ≠ '#' ∧ c ≠ '?' ∧ ¬isSlash true c := by decide
  obtain ⟨c, t, rfl, hc, -⟩ := exists_cons_of_isName hw
  obtain ⟨hhash, hmark, hslash⟩ := key c hc
  have hnone : (c :: t).takeWhile (isSlash true) = [] := List.takeWhile_cons_of_neg hslash
  simp only [readRelative, hnone, List.length_nil]
  rw [if_neg (by decide), if_neg hslash, hpath]
  rfl

theorem readFile_of_isName (hk : base.kind = .file) : readFile (some base) w =
    .ok { base with path := .segments (base.front ++ [w]), query := none, fragment := none } := by
  have hpath : readFilePath (dropLastSegment (pathSegments base)) w = (base.front ++ [w], []) := by
    rw [readFilePath_of_isName hw, front, if_pos hk]
  have hdrive := (not_drive_of_isName hw).1
  have key : ∀ c ∈ Ascii.smallLetters, c ≠ '#' ∧ c ≠ '?' ∧ ¬isSlash true c := by decide
  obtain ⟨c, t, rfl, hc, -⟩ := exists_cons_of_isName hw
  obtain ⟨hhash, hmark, hslash⟩ := key c hc
  simp only [readFile, if_neg hslash, readFile.relative, hdrive, hpath]
  split
  next h => cases h
  next h =>
    cases h
    contradiction
  next h =>
    cases h
    contradiction
  · rfl

theorem join_eq : base.join w = match base.path with
    | .whole _ => .error .opaqueBase
    | .segments _ =>
      .ok { base with path := .segments (base.front ++ [w]), query := none, fragment := none } := by
  have hrelative (hk : base.kind ≠ .file) := readRelative_of_isName hw hk
  have hfile (hk : base.kind = .file) := readFile_of_isName hw hk
  have hclean := clean_of_isName hw
  have hscheme := splitScheme?_of_isName hw
  have key : ∀ c ∈ Ascii.smallLetters, c ≠ '#' := by decide
  obtain ⟨c, t, rfl, hc, -⟩ := exists_cons_of_isName hw
  have hhash := key c hc
  simp only [join, Parser.read, hclean, hscheme]
  split
  next h => exact absurd (List.cons.inj h).1 hhash
  next hp _ => rw [hp]
  next hp _ =>
    rw [hp]
    by_cases hk : base.kind = .file
    · rw [if_pos hk, hfile hk]
    · rw [if_neg hk, hrelative hk]

theorem of_join {u : Url} (h : base.join w = .ok u) :
    u.kind = base.kind ∧ (base.kind ≠ .file → u = base.below w) := by
  rw [join_eq hw] at h
  split at h
  · cases h
  · cases h
    refine ⟨rfl, fun hk => ?_⟩
    rw [front, if_neg hk]
    rfl

end

section

open Url.Parser

variable {u : Url} {w : List Char} {ss : List (List Char)} (hu : IsParsed u)
include hu

theorem isHierarchical_of_isSpecial (hk : u.kind.isSpecial) : u.IsHierarchical := by
  cases hu.form with
  | server _ _ hp => exact ⟨_, hp⟩
  | rooted _ _ hp => exact ⟨_, hp⟩
  | whole hother =>
    rw [hother] at hk
    cases hk
  | file hf => exact ⟨_, hf.path_eq⟩

theorem not_mem_of_isParsed (hp : u.path = .segments ss) : ∀ w ∈ ss, '/' ∉ w := by
  obtain ⟨special, hss⟩ : ∃ special, ∀ w ∈ ss, IsSegment special w := by
    cases hu.form with
    | server _ _ hq _ _ hss => exact ⟨_, Path.segments.inj (hq.symm.trans hp) ▸ hss⟩
    | rooted _ _ hq _ hss => exact ⟨_, Path.segments.inj (hq.symm.trans hp) ▸ hss⟩
    | whole _ _ hq => cases hq.symm.trans hp
    | file hf => exact ⟨_, Path.segments.inj (hf.path_eq.symm.trans hp) ▸ hf.path.segment⟩
  intro w hw hc
  cases ((hss w hw).chars '/' hc).2

theorem isFilePath_of_isParsed (hk : u.kind = .file) (hp : u.path = .segments ss) :
    IsFilePath ss := by
  cases hu.form with
  | server hne => contradiction
  | rooted hother => cases hk.symm.trans hother
  | whole hother => cases hk.symm.trans hother
  | file hf => exact Path.segments.inj (hf.path_eq.symm.trans hp) ▸ hf.path

/-- The last segment goes, unless it is a drive letter. -/
theorem front_concat (hp : u.path = .segments (ss ++ [w])) :
    u.front = ss ∨ w ≠ [] ∧ u.front = ss ++ [w] := by
  have hsegments : pathSegments u = ss ++ [w] := by
    rw [pathSegments, hp]
  rw [front, hsegments]
  split
  next hk =>
    have hfirst : (ss ++ [w] = [[]]) ∨ (ss ++ [w]).dropWhile (·.isEmpty) = ss ++ [w] := by
      obtain he | ⟨v, vs, he, hv⟩ := (isFilePath_of_isParsed hu hk hp).head
      · exact .inl he
      · rw [he]
        exact .inr (List.dropWhile_cons_of_neg (by simpa using hv))
    rw [dropLastSegment, List.getLast?_concat, List.dropLast_concat]
    obtain he | hfirst := hfirst
    · obtain ⟨rfl, he⟩ := List.append_inj' (he.trans (List.nil_append [[]]).symm) rfl
      cases he
      exact .inl rfl
    · split
      next hd =>
        refine .inr ⟨?_, hfirst⟩
        rintro rfl
        cases hd
      · exact .inl (Cut.dropWhile_of_prefix (List.prefix_append ss [w]) hfirst)
  · exact .inl List.dropLast_concat

omit hu

theorem Path.text_concat (ss : List (List Char)) (w : List Char) :
    (Path.segments (ss ++ [w])).text = (Path.segments ss).text ++ '/' :: w := by
  simp [Path.text]

theorem getLast?_text (hss : ∀ w ∈ ss, '/' ∉ w) :
    (Path.segments ss).text.getLast? = some '/' ↔ ss.getLast? = some [] := by
  obtain rfl | ⟨vs, w, rfl⟩ := List.eq_nil_or_concat ss
  · exact iff_of_false nofun nofun
  · rw [List.concat_eq_append] at hss ⊢
    rw [Path.text_concat, List.getLast?_append, List.getLast?_concat, List.getLast?_cons,
      Option.some_or, Option.some_inj, Option.some_inj]
    have hw := hss w (List.mem_append_right vs (List.mem_singleton_self w))
    cases hc : w.getLast? with
    | none => exact iff_of_true rfl (List.getLast?_eq_none_iff.mp hc)
    | some c =>
      have hmem := List.mem_of_getLast? hc
      refine iff_of_false ?_ (List.ne_nil_of_mem hmem)
      rintro rfl
      exact hw hmem

include hu

/-- A name comes behind the whole path just if that ends in a slash. -/
theorem text_front_iff (hp : u.path = .segments ss) (v : List Char) :
    (Path.segments (u.front ++ [v])).text = u.path.text ++ v ↔ ss.getLast? = some [] := by
  have hlonger {t : List Char} : t ++ '/' :: v ≠ t ++ v := by
    rw [ne_eq, List.append_cancel_left_eq]
    exact List.cons_ne_self '/' v
  rw [hp, Path.text_concat]
  obtain rfl | ⟨vs, w, rfl⟩ := List.eq_nil_or_concat ss
  · have hfront : u.front = [] := by
      rw [front, pathSegments, hp]
      exact ite_self []
    rw [hfront]
    exact iff_of_false hlonger (by simp)
  · rw [List.concat_eq_append] at hp ⊢
    rw [List.getLast?_concat, Option.some_inj]
    obtain hfront | ⟨hw, hfront⟩ := front_concat hu hp
    · rw [hfront, Path.text_concat, List.append_assoc, List.append_cancel_left_eq, List.cons_append,
        List.cons_inj_right, List.self_eq_append_left]
    · rw [hfront]
      exact iff_of_false hlonger hw

end

end ScrapeCourier.Url
