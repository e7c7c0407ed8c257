import ScrapeCourier.Proofs.PreparedPort

namespace ScrapeCourier

open Http

namespace Preparation

variable {u v w : Url} {files : Files} {fields kept : Fields}

theorem exists_toHttps : (∃ v, toHttps u = .ok v) ↔ u.kind.isSpecial ∧ u.hasNamedHost := by
  constructor
  · rintro ⟨v, h⟩
    exact (toHttps_eq_ok.mp h).1
  · intro h
    exact ⟨secured u, toHttps_eq_ok.mpr ⟨h, rfl⟩⟩

theorem exists_bearer? {token : List Char} :
    (∃ w, bearer? token = some w) ↔ (Utf8.encode token).all isFieldOctet := by
  have hall : (Octets.ofAscii "Bearer " ++ Utf8.encode token).all isFieldOctet =
      (Utf8.encode token).all isFieldOctet := by
    rw [List.all_append]
    exact Bool.true_and _
  rw [← hall]
  constructor
  · rintro ⟨w, h⟩
    obtain ⟨v, hv, -⟩ := Option.map_eq_some_iff.mp h
    rw [FieldValue.ofOctets?] at hv
    split at hv
    next hvalid => exact hvalid
    · cases hv
  · intro h
    rw [bearer?, FieldValue.ofOctets?, dif_pos h]
    exact ⟨_, rfl⟩

theorem exists_readBearer {path : String} : (∃ w, readBearer files path = .ok w) ↔
    ∃ text, files.readText path = .ok text ∧
      (Utf8.encode (Blank.trim text)).all isFieldOctet := by
  rw [readBearer]
  cases files.readText path with
  | error cause => simp
  | ok text =>
    simp only [Except.ok.injEq, exists_eq_left', ← exists_bearer?]
    cases bearer? (Blank.trim text) with
    | none => simp
    | some w => simp

theorem exists_overrideScheme : (∃ v, overrideScheme u = .ok v) ↔
    (asksForHttps u → u.kind.isSpecial ∧ u.hasNamedHost) := by
  obtain ⟨query, path, hu, -⟩ := withoutSchemePairs_eq u
  rw [overrideScheme]
  split
  next ha =>
    rw [exists_toHttps, hu, imp_iff_right ha]
    exact Iff.rfl
  next ha => exact ⟨fun _ h => absurd h ha, fun _ => ⟨u, rfl⟩⟩

theorem exists_authorize {path? : Option String} : (∃ r, authorize files path? fields u = .ok r) ↔
    ∀ path, path? = some path →
      (∃ w, readBearer files path = .ok w) ∧ u.kind.isSpecial ∧ u.hasNamedHost := by
  cases path? with
  | none =>
    constructor
    · intro _ path hp
      cases hp
    · intro _
      exact ⟨(fields, u), rfl⟩
  | some path =>
    constructor
    · rintro ⟨⟨kept, v⟩, h⟩ path hp
      cases hp
      obtain ⟨w, hw, -, hv⟩ := authorize_some h
      exact ⟨⟨w, hw⟩, (toHttps_eq_ok.mp hv).1⟩
    · intro h
      obtain ⟨⟨w, hw⟩, hu⟩ := h path rfl
      obtain ⟨v, hv⟩ := exists_toHttps.mpr hu
      rw [authorize, hw, ok_bind, hv]
      exact ⟨_, rfl⟩

theorem checkPort_eq_ok {port : Option Nat} {rule : PortRule} : checkPort port rule = .ok () ↔
    ∀ p q, rule = .only p → port = some q → q = p := by
  cases port with
  | none =>
    constructor
    · intro _ p q _ hq
      cases hq
    · intro _
      rfl
  | some q =>
    cases rule with
    | any =>
      constructor
      · intro _ p q hp
        cases hp
      · intro _
        rfl
    | only p =>
      constructor
      · intro h p' q' hp hq
        cases hp
        cases hq
        exact eq_of_checkPort h
      · intro h
        rw [h p q rfl rfl, checkPort]
        exact if_pos (decide_eq_true rfl)

/-- Only a URL with a place for a host and a port can be moved to the loopback address. -/
theorem exists_toLoopback {p : Nat} : (∃ v, toLoopback u (some p) = .ok v) ↔
    (∀ s, u.path ≠ .whole s) ∧ u.kind ≠ .file := by
  constructor
  · rintro ⟨v, h⟩
    simp only [toLoopback] at h
    split at h
    next w hw =>
      obtain ⟨w', hhost, hport⟩ := Option.bind_eq_some_iff.mp hw
      obtain ⟨hpath, rfl⟩ := setHost?_loopbackName.mp hhost
      refine ⟨hpath, fun hk => ?_⟩
      rw [Url.setPort?, if_neg] at hport
      · cases hport
      · rw [Bool.and_eq_true, decide_eq_true_eq]
        exact fun hn => hn.2 hk
    · cases h
  · rintro ⟨hpath, hkind⟩
    have hnamed : ({ u with host := some (loopbackHost u.kind) } : Url).hasNamedHost := by
      rw [loopbackHost]
      split
      · rfl
      · rfl
    have hport : ({ u with host := some (loopbackHost u.kind) } : Url).setPort? (some p) =
        some (pinned u p) := by
      rw [Url.setPort?, if_pos]
      · rfl
      · rw [Bool.and_eq_true, decide_eq_true_eq]
        exact ⟨hnamed, hkind⟩
    simp only [toLoopback, setHost?_loopbackName.mpr ⟨hpath, rfl⟩, Option.bind_some, hport]
    exact ⟨pinned u p, rfl⟩

theorem exists_rewrite {localhost : Bool} {port : Option Nat} :
    (∃ v, (if localhost then toLoopback u port else .ok u) = .ok v) ↔
      ∀ p, localhost → port = some p → (∀ s, u.path ≠ .whole s) ∧ u.kind ≠ .file := by
  cases localhost with
  | false => simp
  | true =>
    cases port with
    | none => simp [toLoopback]
    | some p => simpa using exists_toLoopback

theorem kind_secured (u : Url) : (secured u).kind = .web := by
  have hkind : Url.kindOf "https".toList = .web := by decide
  exact hkind

theorem of_overrideScheme (h : overrideScheme u = .ok v) :
    ((∃ s, v.path = .whole s) ↔ ∃ s, u.path = .whole s) ∧
      (v.kind.isSpecial ∧ v.hasNamedHost ↔ u.kind.isSpecial ∧ u.hasNamedHost) ∧
      (v.kind = .file ↔ u.kind = .file ∧ asksForHttps u = false) := by
  have hsecure := exists_overrideScheme.mp ⟨v, h⟩
  rw [overrideScheme] at h
  split at h
  next ha =>
    obtain ⟨query, path, hu, hpath, -⟩ := withoutSchemePairs_eq u
    rw [hu] at h
    obtain ⟨hv, rfl⟩ := toHttps_eq_ok.mp h
    rw [kind_secured]
    refine ⟨hpath, ⟨fun _ => hsecure ha, fun hs => ⟨rfl, hs.2⟩⟩, ?_⟩
    simp [ha]
  next ha =>
    cases h
    simp [ha]

theorem of_authorize {path? : Option String} (h : authorize files path? fields u = .ok (kept, v)) :
    v.path = u.path ∧ (v.kind = .file ↔ u.kind = .file ∧ path? = none) := by
  cases path? with
  | none =>
    cases h
    simp
  | some path =>
    obtain ⟨w, -, -, hv⟩ := authorize_some h
    rw [(toHttps_eq_ok.mp hv).2, kind_secured]
    refine ⟨rfl, ?_⟩
    simp

end Preparation

open Preparation

/-- What it takes to prepare a job. -/
structure Job.Preparable (c : Config) (files : Files) (j : Job) : Prop where
  /-- For https, the scheme has to be a special one and a host has to be named. -/
  secure : asksForHttps j.url ∨ c.tokenPath.isSome → j.url.kind.isSpecial ∧ j.url.hasNamedHost
  token : ∀ path, c.tokenPath = some path → ∃ text, files.readText path = .ok text ∧
    (Utf8.encode (Blank.trim text)).all isFieldOctet
  port : ∀ p q, c.allowPort = .only p → j.port = some q → q = p
  /-- On the loopback address, there has to be a place for a host and a port. -/
  loopback : ∀ p, c.useLocalhost → j.port = some p → (∀ s, j.url.path ≠ .whole s) ∧
    (j.url.kind = .file → asksForHttps j.url ∨ c.tokenPath.isSome)
  endpoint : ∀ f, c.federation = some f → ∃ u, f.endpoint = .ok u

namespace Job

variable {c : Config} {files : Files} {j : Job}

theorem exists_prepare {u v w : Url} {fields : Fields} (hu : overrideScheme j.url = .ok u)
    (hv : authorize files c.tokenPath (forwarded j.fields) u = .ok (fields, v))
    (hport : checkPort j.port c.allowPort = .ok ())
    (hw : (if c.useLocalhost then toLoopback v j.port else .ok v) = .ok w)
    (hend : ∀ f, c.federation = some f → ∃ u, f.endpoint = .ok u) :
    ∃ call, j.prepare c files = .ok call := by
  rw [prepare, hu, ok_bind, hv, ok_bind]
  dsimp -zeta only
  rw [hport, ok_bind]
  extract_lets finish
  rw [← apply_ite (· >>= finish), hw, ok_bind]
  simp only [finish]
  cases hc : c.federation with
  | none => exact ⟨_, rfl⟩
  | some f =>
    obtain ⟨e, he⟩ := hend f hc
    simp only [he]
    exact ⟨_, rfl⟩

/-- A job can be prepared if and only if nothing of what it takes is missing. -/
theorem exists_prepare_iff : (∃ call, j.prepare c files = .ok call) ↔ j.Preparable c files := by
  constructor
  · rintro ⟨call, h⟩
    obtain ⟨u, v, w, fields, hu, hv, hport, hw, hcall⟩ := of_prepare h
    obtain ⟨hwhole, hsecurable, hfile⟩ := of_overrideScheme hu
    obtain ⟨hpath, hfile'⟩ := of_authorize hv
    have hoverride := exists_overrideScheme.mp ⟨u, hu⟩
    have hauthorize := exists_authorize.mp ⟨_, hv⟩
    have hrewrite := exists_rewrite.mp ⟨w, hw⟩
    -- What a step asks of its URL is traced back to the URL of the job.
    refine ⟨fun ha => ?_, fun path hc => ?_, checkPort_eq_ok.mp hport, fun p hc hj => ?_,
      fun f hc => ?_⟩
    · obtain ha | hc := ha
      · exact hoverride ha
      · obtain ⟨path, hc⟩ := Option.isSome_iff_exists.mp hc
        exact hsecurable.mp (hauthorize path hc).2
    · exact exists_readBearer.mp (hauthorize path hc).1
    · obtain ⟨hsegments, hkind⟩ := hrewrite p hc hj
      refine ⟨fun s hs => ?_, fun hk => ?_⟩
      · obtain ⟨s', hs'⟩ := hwhole.mpr ⟨s, hs⟩
        exact hsegments s' (hpath.trans hs')
      · by_contra hn
        obtain ⟨ha, ht⟩ := not_or.mp hn
        exact hkind (hfile'.mpr ⟨hfile.mpr ⟨hk, (Bool.not_eq_true _).mp ha⟩, by simpa using ht⟩)
    · rw [hc] at hcall
      exact ⟨_, hcall.1⟩
  · intro h
    obtain ⟨u, hu⟩ := exists_overrideScheme.mpr fun ha => h.secure (.inl ha)
    obtain ⟨hwhole, hsecurable, hfile⟩ := of_overrideScheme hu
    obtain ⟨⟨fields, v⟩, hv⟩ := exists_authorize.mpr fun path hc =>
      ⟨exists_readBearer.mpr (h.token path hc),
        hsecurable.mpr (h.secure (.inr (Option.isSome_of_eq_some hc)))⟩
    obtain ⟨hpath, hfile'⟩ := of_authorize hv
    obtain ⟨w, hw⟩ := exists_rewrite.mpr fun p hc hj => by
      obtain ⟨hsegments, hkind⟩ := h.loopback p hc hj
      refine ⟨fun s hs => ?_, fun hk => ?_⟩
      · obtain ⟨s', hs'⟩ := hwhole.mp ⟨s, hpath.symm.trans hs⟩
        exact hsegments s' hs'
      · obtain ⟨hk, ht⟩ := hfile'.mp hk
        obtain ⟨hk, ha⟩ := hfile.mp hk
        simpa [ha, ht] using hkind hk
    exact exists_prepare hu hv (checkPort_eq_ok.mpr h.port) hw h.endpoint

end Job

end ScrapeCourier
