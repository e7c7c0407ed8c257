import ScrapeCourier.Proofs.HostText
import ScrapeCourier.Proofs.PreparedParts

namespace ScrapeCourier

namespace Url

/-- The URLs there are: each is read, or is another with a part changed. -/
inductive Built : Url → Prop
  | parse {s : List Char} {u : Url} (h : parse s = .ok u) : Built u
  | join {base u : Url} {s : List Char} (hb : Built base) (h : base.join s = .ok u) : Built u
  | setSpecialScheme {u v : Url} {scheme : List Char} (hu : Built u)
      (h : u.setSpecialScheme? scheme = some v) : Built v
  | setHost {u v : Url} {s : List Char} (hu : Built u) (h : u.setHost? s = some v) : Built v
  | setPort {u v : Url} {port : Option Nat} (hu : Built u) (h : u.setPort? port = some v) : Built v
  | clearQuery {u : Url} (hu : Built u) : Built u.clearQuery
  | setQueryPairs {u : Url} (hu : Built u) (ps : List Form.Pair) : Built (u.setQueryPairs ps)

structure IsSound (u : Url) : Prop where
  path : u.kind.isSpecial → ∃ ss, u.path = .segments ss
  host : u.kind = .web → u.hasNamedHost

namespace IsSound

variable {u v : Url}

theorem of_other (hk : u.kind = .other) : u.IsSound := by
  constructor
  · intro hs
    rw [hk] at hs
    cases hs
  · intro hw
    cases hk.symm.trans hw

theorem of_file (hu : u.scheme = "file".toList) (hpath : ∃ ss, u.path = .segments ss) :
    u.IsSound := by
  refine ⟨fun _ => hpath, fun hw => ?_⟩
  rw [kind, hu] at hw
  cases hw

theorem of_eq (hu : u.IsSound) (hs : v.scheme = u.scheme) (hh : v.host = u.host)
    (hp : v.path = u.path ∨ ∃ ss, v.path = .segments ss) : v.IsSound := by
  have hkind : v.kind = u.kind := congrArg kindOf hs
  constructor
  · intro hspecial
    obtain hp | hp := hp
    · rw [hp]
      exact hu.path (hkind ▸ hspecial)
    · exact hp
  · intro hw
    rw [hasNamedHost, namedHost?, hh]
    exact hu.host (hkind ▸ hw)

theorem clearQuery (hu : u.IsSound) : u.clearQuery.IsSound := by
  refine ⟨fun hs => ?_, hu.host⟩
  obtain ⟨ss, hss⟩ := hu.path hs
  exact ⟨ss, by rw [Url.clearQuery, hss]⟩

end IsSound

theorem Host.ne_empty_of_read {s : List Char} {h : Host} (hs : read s = .ok h) : h ≠ .empty := by
  rintro rfl
  cases given_of_read hs

theorem hasNamedHost_of_host {u : Url} {h : Host} (hu : u.host = some h) (hh : h ≠ .empty) :
    u.hasNamedHost := by
  rw [hasNamedHost, namedHost?, hu]
  simp [hh]

namespace Parser

variable {base u : Url} {scheme s : List Char}

theorem isSound_of_readServer (h : readServer scheme s = .ok u) : u.IsSound := by
  refine ⟨fun _ => exists_segments_of_readServer h, fun hweb => ?_⟩
  rw [kind, scheme_of_readServer h] at hweb
  obtain ⟨⟨a, rest⟩, ha, h⟩ := bind_eq_ok.mp h
  obtain ⟨unread, hparts, -⟩ := of_readAuthority ha
  cases h
  have hspecial : (kindOf scheme).isSpecial := by
    rw [hweb]
    rfl
  have hhost := hparts.host
  rw [readHost, if_pos hspecial] at hhost
  exact hasNamedHost_of_host rfl (Host.ne_empty_of_read hhost)

theorem isSound_of_readFile {base? : Option Url}
    (hb : ∀ b, base? = some b → b.IsSound ∧ b.kind = .file) (h : readFile base? s = .ok u) :
    u.IsSound := by
  have hdrive (t : List Char) : (readFile.onDrive base? t).IsSound :=
    .of_file rfl ⟨_, rfl⟩
  have hrelative (t : List Char) : (readFile.relative base? t).IsSound := by
    cases base? with
    | none => exact .of_file rfl ⟨_, rfl⟩
    | some b =>
      obtain ⟨hb, hk⟩ := hb b rfl
      have hs := kindOf_eq_file hk
      have hpath := hb.path (by rw [hk]; rfl)
      simp only [readFile.relative]
      split
      · exact .of_file hs hpath
      · exact .of_file hs hpath
      · exact .of_file hs hpath
      · split
        · exact .of_file rfl ⟨_, rfl⟩
        · exact .of_file hs ⟨_, rfl⟩
  unfold readFile at h
  split at h
  · split at h
    · split at h
      · split at h
        · exact .of_file (scheme_of_readFileServer h) (exists_segments_of_readFileServer h)
        · cases h
          exact hdrive _
      · cases h
        exact hdrive _
    · cases h
      exact hrelative _
  · cases h
    exact hrelative _

theorem isSound_of_readRelative (hb : base.IsSound) (h : readRelative base s = .ok u) :
    u.IsSound := by
  simp only [readRelative] at h
  split at h
  · cases h
    exact hb.of_eq rfl rfl (.inl rfl)
  · cases h
    exact hb.of_eq rfl rfl (.inl rfl)
  · cases h
    exact hb.of_eq rfl rfl (.inl rfl)
  · split at h
    · exact isSound_of_readServer h
    · split at h
      · cases h
        exact hb.of_eq rfl rfl (.inr ⟨_, rfl⟩)
      · cases h
        exact hb.of_eq rfl rfl (.inr ⟨_, rfl⟩)

theorem isSound_of_readOther (hk : kindOf scheme = .other) (h : readOther scheme s = .ok u) :
    u.IsSound := by
  unfold readOther at h
  split at h
  · exact isSound_of_readServer h
  · cases h
    exact .of_other hk
  · cases h
    exact .of_other hk

theorem isSound_of_readWeb {base? : Option Url} (hb : ∀ b, base? = some b → b.IsSound)
    (h : readWeb base? scheme s = .ok u) : u.IsSound := by
  cases base? with
  | none => exact isSound_of_readServer h
  | some base =>
    simp only [readWeb] at h
    split at h
    · exact isSound_of_readRelative (hb base rfl) h
    · exact isSound_of_readServer h

theorem isSound_of_read {base? : Option Url} (hb : ∀ b, base? = some b → b.IsSound)
    (h : read base? s = .ok u) : u.IsSound := by
  simp only [read] at h
  split at h
  next scheme rest _ =>
    split at h
    · refine isSound_of_readFile (fun b hb' => ?_) h
      obtain ⟨hbase, hk⟩ := Option.filter_eq_some_iff.mp hb'
      exact ⟨hb b hbase, of_decide_eq_true hk⟩
    · exact isSound_of_readWeb hb h
    next hk => exact isSound_of_readOther hk h
  · cases base? with
    | none => cases h
    | some base =>
      have hbase := hb base rfl
      dsimp only at h
      split at h
      · cases h
        exact hbase.of_eq rfl rfl (.inl rfl)
      · cases h
      · split at h
        next hk =>
          refine isSound_of_readFile (fun b hb' => ?_) h
          cases hb'
          exact ⟨hbase, hk⟩
        · exact isSound_of_readRelative hbase h

end Parser

theorem isSound_of_setHost {u v : Url} {s : List Char} (h : u.setHost? s = some v) :
    v.IsSound := by
  rw [setHost?] at h
  split at h
  · cases h
  next ss hss =>
    split at h
    next host hhost =>
      cases h
      refine ⟨fun _ => ⟨ss, hss⟩, fun hw => ?_⟩
      have hspecial : u.kind.isSpecial := by
        rw [show u.kind = .web from hw]
        rfl
      rw [if_pos hspecial] at hhost
      exact hasNamedHost_of_host rfl (Host.ne_empty_of_read hhost)
    · cases h

theorem eq_of_setPort {u v : Url} {port : Option Nat} (h : u.setPort? port = some v) :
    v = { u with port := v.port } := by
  rw [setPort?] at h
  split at h
  · cases h
    rfl
  · cases h

theorem eq_of_setSpecialScheme {u v : Url} {scheme : List Char}
    (h : u.setSpecialScheme? scheme = some v) :
    (u.kind.isSpecial ∧ u.hasNamedHost) ∧ v = { u with scheme, port := v.port } := by
  rw [setSpecialScheme?] at h
  split at h
  next hu =>
    refine ⟨Bool.and_eq_true_iff.mp hu, ?_⟩
    dsimp only at h
    cases hp : ({ u with scheme } : Url).setPort? u.port with
    | none =>
      rw [hp] at h
      cases h
      rfl
    | some w =>
      rw [hp] at h
      cases h
      exact eq_of_setPort hp
  · cases h

theorem Built.isSound {u : Url} (hu : u.Built) : u.IsSound := by
  induction hu with
  | parse h =>
    have hnone : ∀ b : Url, none = some b → b.IsSound := nofun
    exact Parser.isSound_of_read hnone h
  | join _ h ih =>
    refine Parser.isSound_of_read (fun b hb => ?_) h
    cases hb
    exact ih
  | setSpecialScheme _ h ih =>
    obtain ⟨⟨hspecial, hnamed⟩, hv⟩ := eq_of_setSpecialScheme h
    rw [hv]
    exact ⟨fun _ => ih.path hspecial, fun _ => hnamed⟩
  | setHost _ h => exact isSound_of_setHost h
  | setPort _ h ih =>
    rw [eq_of_setPort h]
    exact ih.of_eq rfl rfl (.inl rfl)
  | clearQuery _ ih => exact ih.clearQuery
  | setQueryPairs _ ps ih => exact ih.of_eq rfl rfl (.inl rfl)

end Url

end ScrapeCourier
