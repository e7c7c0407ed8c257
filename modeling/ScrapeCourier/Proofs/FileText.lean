import ScrapeCourier.Proofs.AuthorityText
import ScrapeCourier.Proofs.PathText

namespace ScrapeCourier.Url.Parser

variable {ss ws : List (List Char)} {s : List Char}

/-- The path of a file as it is read. -/
structure IsFilePath (ss : List (List Char)) : Prop where
  segment : ∀ w ∈ ss, IsSegment true w
  head : ss = [[]] ∨ ∃ w ws, ss = w :: ws ∧ w ≠ []

theorem IsFilePath.ne_nil (h : IsFilePath ss) : ss ≠ [] := by
  obtain rfl | ⟨w, ws, rfl, -⟩ := h.head
  · exact List.cons_ne_nil _ _
  · exact List.cons_ne_nil _ _

theorem isSegmentChar_driveSegments (hws : ∀ w ∈ ws, ∀ c ∈ w, IsSegmentChar true c) :
    ∀ w ∈ driveSegments ws, ∀ c ∈ w, IsSegmentChar true c := by
  have hcolon : IsSegmentChar true ':' := by
    unfold IsSegmentChar
    decide
  unfold driveSegments
  split
  next l ws =>
    rw [List.forall_mem_cons] at hws
    split
    · simp only [List.forall_mem_cons] at hws ⊢
      exact ⟨⟨hws.1.1, hcolon, nofun⟩, hws.2⟩
    · exact List.forall_mem_cons.mpr hws
  next l c w ws =>
    rw [List.forall_mem_cons] at hws
    split
    · simp only [List.forall_mem_cons] at hws ⊢
      exact ⟨⟨hws.1.1, hcolon, nofun⟩, hws.1.2.2, hws.2⟩
    · exact List.forall_mem_cons.mpr hws
  · exact hws

theorem isFilePath_readFilePath (s : List Char) : IsFilePath (readFilePath [] s).1 := by
  have hempty : ∀ w ∈ ([] : List (List Char)), IsSegment true w := nofun
  have hall := isSegment_of_mem_addSegments hempty
    (isSegmentChar_driveSegments (isSegmentChar_segmentsOf s))
  simp only [readFilePath, List.isEmpty_nil, if_true]
  generalize addSegments [] (driveSegments (segmentsOf true s)) = vs at hall
  have hsub := (List.dropWhile_sublist (·.isEmpty) (l := vs)).subset
  have hfirst := List.head?_dropWhile_not (·.isEmpty) vs
  generalize vs.dropWhile (·.isEmpty) = ws at hsub hfirst
  cases ws with
  | nil => exact ⟨fun w hw => List.mem_singleton.mp hw ▸ isSegment_nil true, .inl rfl⟩
  | cons w ws =>
    refine ⟨fun v hv => hall v (hsub hv), .inr ⟨w, ws, rfl, ?_⟩⟩
    rw [List.head?_cons] at hfirst
    exact List.isEmpty_eq_false_iff.mp (by simpa using hfirst)

theorem readFilePath_text (h : IsFilePath ss) (hd : driveSegments ss = ss) {t : List Char}
    (ht : IsTail t) : readFilePath [] (['/'].intercalate ss ++ t) = (ss, t) := by
  obtain ⟨hsegments, hrest⟩ := segmentsOf_text h.ne_nil (fun w hw => (h.segment w hw).chars) ht
  simp only [readFilePath, hsegments, hrest, List.isEmpty_nil, if_true, hd,
    addSegments_of_isSegment h.segment, List.nil_append]
  obtain rfl | ⟨w, ws, rfl, hw⟩ := h.head
  · rfl
  · rw [List.dropWhile_cons_of_neg (by simpa using hw)]
    rfl

structure IsFile (u : Url) (h : Host) (ss : List (List Char)) : Prop where
  eq : u = { fileUrl h ss with query := u.query, fragment := u.fragment }
  host : h = .empty ∨ h.Given ∧ h ≠ .domain "localhost".toList
  path : IsFilePath ss
  drive : (ss.head?.map isNormalDrive).getD false → h = .empty
  tail : IsTailed u

theorem isFile_withTail {h : Host} (hh : h = .empty ∨ h.Given ∧ h ≠ .domain "localhost".toList)
    (hs : IsFilePath ss) (hd : (ss.head?.map isNormalDrive).getD false → h = .empty)
    (t : List Char) : ∃ h' ss', IsFile (withTail (fileUrl h ss) t) h' ss' :=
  ⟨h, ss, rfl, hh, hs, hd, isTailed_withTail _ _⟩

theorem isFile_of_path {r : List (List Char) × List Char} (hr : IsFilePath r.1) :
    ∃ h ss, IsFile (withTail (fileUrl .empty r.1) r.2) h ss :=
  isFile_withTail (.inl rfl) hr (fun _ => rfl) r.2

theorem isFile_of_readFileServer {u : Url} (h : readFileServer s = .ok u) :
    ∃ host ss, IsFile u host ss := by
  unfold readFileServer at h
  extract_lets inHost text atHost at h
  split at h
  · cases h
    exact isFile_of_path (isFilePath_readFilePath s)
  · rw [← apply_ite (· >>= _)] at h
    obtain ⟨host, hhost, h⟩ := bind_eq_ok.mp h
    have hpath := isFilePath_readFilePath (dropSlash true (s.dropWhile inHost))
    simp only [atHost] at h
    generalize readFilePath [] (dropSlash true (s.dropWhile inHost)) = r at h hpath
    have hgiven : host = .empty ∨ host.Given := by
      split at hhost
      · cases hhost
        exact .inl rfl
      · exact .inr (Host.given_of_read hhost)
    cases h
    refine isFile_withTail ?_ hpath ?_ r.2
    · split
      · exact .inl rfl
      · split
        · exact .inl rfl
        next hne => exact hgiven.imp_right fun hg => ⟨hg, hne⟩
    · intro hdrive
      rw [if_pos hdrive]

theorem isFile_of_readFile {u : Url} (h : readFile none s = .ok u) :
    ∃ host ss, IsFile u host ss := by
  have hplain (t : List Char) := isFile_of_path (isFilePath_readFilePath t)
  have hdrive (t : List Char) : ∃ host ss, IsFile (readFile.onDrive none t) host ss := by
    rw [readFile.onDrive]
    simp only [ite_self]
    exact hplain t
  unfold readFile at h
  split at h
  next c t =>
    split at h
    · split at h
      · split at h
        · exact isFile_of_readFileServer h
        · cases h
          exact hdrive _
      · cases h
        exact hdrive _
    · cases h
      exact hplain (c :: t)
  · cases h
    exact hplain []

theorem IsFile.path_eq {u : Url} {h : Host} (hu : IsFile u h ss) : u.path = .segments ss := by
  rw [hu.eq]
  rfl

theorem IsFile.authorityText_eq {u : Url} {h : Host} (hu : IsFile u h ss) :
    u.authorityText = "//".toList ++ h.text := by
  rw [hu.eq]
  exact List.append_nil _

theorem IsFile.isClosed {u : Url} {h : Host} (hu : IsFile u h ss) : Host.IsClosed h.text := by
  obtain rfl | ⟨hg, -⟩ := hu.host
  · exact .inl nofun
  · exact Host.isClosed_of_given hg

theorem readFileServer_text {u : Url} {h : Host} (hu : IsFile u h ss) (hd : driveSegments ss = ss) :
    readFileServer (h.text ++ ((Path.segments ss).text ++ (u.queryText ++ u.fragmentText))) =
      .ok u := by
  have hinside : ∀ c ∈ h.text, inAuthority "file".toList c := fun c hc =>
    inAuthority_of_isAuthorityChar
    (isAuthorityChar_of_isServerChar (hu.isClosed.all_isServerChar c hc)) _
  have hpath := text_segments hu.path.ne_nil
  obtain ⟨htake, hdrop⟩ := Cut.span_append hinside
    (t := (Path.segments ss).text ++ (u.queryText ++ u.fragmentText)) fun c hc => by
      rw [hpath, List.cons_append] at hc
      cases hc
      rfl
  have hhost : (if h.text.isEmpty then pure .empty else Host.read h.text) = .ok h := by
    obtain rfl | ⟨hg, -⟩ := hu.host
    · rfl
    · rw [if_neg (mt List.isEmpty_iff.mp hg.text_ne_nil)]
      exact Host.read_text_of_given hg
  have hlocal : (if h = .domain "localhost".toList then .empty else h) = h := by
    obtain rfl | ⟨-, hne⟩ := hu.host
    · rfl
    · exact if_neg hne
  have hnormal : (if (ss.head?.map isNormalDrive).getD false then .empty else h) = h := by
    split
    next hn => exact (hu.drive hn).symm
    · rfl
  have hfile : fileUrl h ss = { u with query := none, fragment := none } := by
    rw [hu.eq]
    rfl
  unfold readFileServer
  extract_lets inHost text atHost
  have htext : text = h.text := htake
  have hread : readFilePath [] (dropSlash true
      ((h.text ++ ((Path.segments ss).text ++ (u.queryText ++ u.fragmentText))).dropWhile inHost)) =
        (ss, u.queryText ++ u.fragmentText) := by
    change readFilePath [] (dropSlash true (List.dropWhile (inAuthority "file".toList) _)) = _
    rw [hdrop, hpath]
    exact readFilePath_text hu.path hd (isTail_text u)
  rw [htext, hu.isClosed.isDrive_eq_false, if_neg Bool.false_ne_true, ← apply_ite (· >>= _), hhost]
  simp only [atHost, ok_bind, hlocal, hread, hnormal]
  rw [hfile, hu.tail.withTail_text]
  rfl

end ScrapeCourier.Url.Parser
