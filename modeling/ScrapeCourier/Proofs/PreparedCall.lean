import ScrapeCourier.Proofs.Checked
import ScrapeCourier.Scrape.Preparation

namespace ScrapeCourier

open Http

namespace Url.Parser

variable {base u : Url} {scheme s : List Char}

theorem scheme_of_readServer (h : readServer scheme s = .ok u) : u.scheme = scheme := by
  obtain ⟨⟨a, rest⟩, -, h⟩ := bind_eq_ok.mp h
  cases h
  rfl

theorem eq_of_readFileServer (h : readFileServer s = .ok u) :
    ∃ host ss rest, u = withTail (fileUrl host ss) rest := by
  unfold readFileServer at h
  extract_lets inHost text at h
  split at h
  · cases h
    exact ⟨_, _, _, rfl⟩
  · split at h
    · cases h
      exact ⟨_, _, _, rfl⟩
    · obtain ⟨host, -, h⟩ := bind_eq_ok.mp h
      cases h
      exact ⟨_, _, _, rfl⟩

theorem scheme_of_readFileServer (h : readFileServer s = .ok u) : u.scheme = "file".toList := by
  obtain ⟨host, ss, rest, rfl⟩ := eq_of_readFileServer h
  rfl

theorem scheme_of_readFile (hb : base.scheme = "file".toList) (h : readFile (some base) s = .ok u) :
    u.scheme = "file".toList := by
  have hrelative (t : List Char) : (readFile.relative (some base) t).scheme = "file".toList := by
    simp only [readFile.relative]
    split
    · exact hb
    · exact hb
    · exact hb
    · split
      · rfl
      · exact hb
  unfold readFile at h
  split at h
  · split at h
    · split at h
      · split at h
        · exact scheme_of_readFileServer h
        · cases h
          rfl
      · cases h
        rfl
    · cases h
      exact hrelative _
  · cases h
    exact hrelative _

theorem scheme_of_readRelative (h : readRelative base s = .ok u) : u.scheme = base.scheme := by
  simp only [readRelative] at h
  split at h
  · cases h
    rfl
  · cases h
    rfl
  · cases h
    rfl
  · split at h
    · exact scheme_of_readServer h
    · split at h
      · cases h
        rfl
      · cases h
        rfl

theorem kindOf_eq_file (h : kindOf scheme = .file) : scheme = "file".toList := by
  rw [kindOf] at h
  split at h
  next hs => exact hs
  · split at h
    · cases h
    · cases h

end Url.Parser

theorem Url.scheme_of_join {base u : Url} {s : List Char}
    (hs : Parser.splitScheme? (Parser.clean s) = none) (h : base.join s = .ok u) :
    u.scheme = base.scheme := by
  rw [join, Parser.read] at h
  simp only [hs] at h
  split at h
  · cases h
    rfl
  · cases h
  · split at h
    next hf =>
      rw [Parser.kindOf_eq_file hf]
      exact Parser.scheme_of_readFile (Parser.kindOf_eq_file hf) h
    · exact Parser.scheme_of_readRelative h

theorem Federation.scheme_endpoint {f : Federation} {u : Url} (h : f.endpoint = .ok u) :
    u.scheme = f.base.scheme := by
  obtain ⟨v, hv, h⟩ := bind_eq_ok.mp h
  cases h
  have hscheme : v.scheme = f.base.scheme := Url.scheme_of_join (by decide) hv
  exact hscheme

namespace Preparation

variable {u v : Url} {fields kept : Fields} {files : Files} {path : String}

def secured (u : Url) : Url :=
  { u with scheme := "https".toList, port := if u.port = some 443 then none else u.port }

theorem toHttps_eq_ok :
    toHttps u = .ok v ↔ (u.kind.isSpecial ∧ u.hasNamedHost) ∧ v = secured u := by
  have hset (hn : u.hasNamedHost) : ({ u with scheme := "https".toList } : Url).setPort? u.port =
      some (secured u) := by
    rw [Url.setPort?, if_pos]
    · rfl
    · have hkind : Url.kindOf "https".toList ≠ .file := by decide
      rw [Bool.and_eq_true, decide_eq_true_eq]
      exact ⟨hn, hkind⟩
  rw [toHttps, Url.setSpecialScheme?]
  by_cases hu : u.kind.isSpecial ∧ u.hasNamedHost
  · simp only [hset hu.2, hu.1, hu.2, Bool.and_self, if_true, Option.getD_some, true_and]
    exact ⟨fun he => (Except.ok.inj he).symm, fun he => he ▸ rfl⟩
  · rw [if_neg (by rwa [Bool.and_eq_true])]
    exact ⟨nofun, fun he => absurd he.1 hu⟩

/-- Without these pairs nothing but the query is another, and of a path that stands for itself the
end. -/
theorem withoutSchemePairs_eq (u : Url) : ∃ query path,
    withoutSchemePairs u = { u with query, path } ∧
      ((∃ s, path = .whole s) ↔ ∃ s, u.path = .whole s) ∧
      ∀ ss, u.path = .segments ss → path = u.path := by
  rw [withoutSchemePairs]
  split
  · refine ⟨none, _, rfl, ?_⟩
    cases u.path with
    | segments ss => exact ⟨Iff.rfl, fun _ _ => rfl⟩
    | whole s => cases u.fragment <;> simp
  · exact ⟨_, u.path, rfl, Iff.rfl, fun _ _ => rfl⟩

theorem host_of_overrideScheme (h : overrideScheme u = .ok v) : v.host = u.host := by
  rw [overrideScheme] at h
  split at h
  · obtain ⟨query, path, hu, -⟩ := withoutSchemePairs_eq u
    rw [(toHttps_eq_ok.mp h).2, hu]
    rfl
  · cases h
    rfl

theorem exists_text_of_readBearer {w : FieldValue} (h : readBearer files path = .ok w) :
    ∃ octets text, files path = .ok octets ∧ Utf8.decode? octets = some text ∧
      w.octets = Octets.ofAscii "Bearer " ++ Utf8.encode (Blank.trim text) ∧ w.secret := by
  rw [readBearer] at h
  split at h
  · cases h
  next text htext =>
    obtain ⟨octets, hoctets, htext⟩ := bind_eq_ok.mp htext
    split at htext
    next hd =>
      cases htext
      split at h
      next hb =>
        cases h
        obtain ⟨w, hw, rfl⟩ := Option.map_eq_some_iff.mp hb
        refine ⟨octets, text, hoctets, hd, ?_, rfl⟩
        rw [FieldValue.ofOctets?] at hw
        split at hw
        · cases hw
          rfl
        · cases hw
      · cases h
    · cases htext

theorem authorize_some (h : authorize files (some path) fields u = .ok (kept, v)) :
    ∃ w, readBearer files path = .ok w ∧ kept = fields.insert .authorization w ∧
      toHttps u = .ok v := by
  obtain ⟨w, hw, h⟩ := bind_eq_ok.mp h
  obtain ⟨v', hv, h⟩ := bind_eq_ok.mp h
  cases h
  exact ⟨w, hw, rfl, hv⟩

theorem host_of_authorize {path? : Option String}
    (h : authorize files path? fields u = .ok (kept, v)) : v.host = u.host := by
  cases path? with
  | none =>
    cases h
    rfl
  | some path =>
    obtain ⟨w, -, -, hv⟩ := authorize_some h
    rw [(toHttps_eq_ok.mp hv).2]
    rfl

def loopbackHost (k : Url.Kind) : Url.Host :=
  if k.isSpecial then .ipv4 .loopback else .literal loopbackName

theorem text_loopbackHost (k : Url.Kind) : (loopbackHost k).text = loopbackName := by
  rw [loopbackHost]
  split
  · decide +kernel
  · rfl

theorem read_loopbackName (k : Url.Kind) : (if k.isSpecial then Url.Host.read loopbackName
    else Url.Host.readLiteral loopbackName) = .ok (loopbackHost k) := by
  rw [loopbackHost]
  split
  · exact eq_ok_of_toOption (by decide +kernel)
  · rfl

theorem setHost?_loopbackName : u.setHost? loopbackName = some v ↔
    (∀ s, u.path ≠ .whole s) ∧ v = { u with host := some (loopbackHost u.kind) } := by
  rw [Url.setHost?, read_loopbackName]
  split
  next s hs =>
    constructor
    · intro h
      cases h
    · intro h
      exact absurd hs (h.1 s)
  next ss hs =>
    constructor
    · intro h
      refine ⟨fun s hw => ?_, (Option.some.inj h).symm⟩
      cases hs.symm.trans hw
    · rintro ⟨-, rfl⟩
      rfl

def pinned (u : Url) (port : Nat) : Url :=
  { u with
    host := some (loopbackHost u.kind)
    port := if some port = Url.defaultPort? u.scheme then none else some port }

theorem eq_pinned_of_toLoopback {p : Nat} (h : toLoopback u (some p) = .ok v) : v = pinned u p := by
  simp only [toLoopback] at h
  split at h
  next w hw =>
    cases h
    obtain ⟨w, hhost, hport⟩ := Option.bind_eq_some_iff.mp hw
    cases (setHost?_loopbackName.mp hhost).2
    rw [Url.setPort?] at hport
    split at hport
    · exact (Option.some.inj hport).symm
    · cases hport
  · cases h

theorem scheme_of_toLoopback {port : Option Nat} (h : toLoopback u port = .ok v) :
    v.scheme = u.scheme := by
  cases port with
  | none => rw [Except.ok.inj h]
  | some p => rw [eq_pinned_of_toLoopback h, pinned]

end Preparation

open Preparation

/-- What is prepared, step by step; the federating server is there whatever the target is. -/
theorem Job.of_prepare {c : Config} {files : Files} {j : Job} {call : Call}
    (h : j.prepare c files = .ok call) :
    ∃ u v w fields, overrideScheme j.url = .ok u ∧
      authorize files c.tokenPath (forwarded j.fields) u = .ok (fields, v) ∧
      checkPort j.port c.allowPort = .ok () ∧
      (if c.useLocalhost then toLoopback v j.port else .ok v) = .ok w ∧
      match c.federation with
      | none => call = ⟨j.method, w, fields, j.body⟩
      | some f => f.endpoint = .ok call.url ∧ call = ⟨.get, call.url, fields, []⟩ := by
  rw [prepare] at h
  obtain ⟨u, hu, h⟩ := bind_eq_ok.mp h
  obtain ⟨⟨fields, v⟩, hv, h⟩ := bind_eq_ok.mp h
  obtain ⟨⟨⟩, hp, h⟩ := bind_eq_ok.mp h
  extract_lets finish at h
  rw [← apply_ite (· >>= finish)] at h
  obtain ⟨w, hw, h⟩ := bind_eq_ok.mp h
  refine ⟨u, v, w, fields, hu, hv, hp, hw, ?_⟩
  simp only [finish] at h
  cases hc : c.federation with
  | none =>
    rw [hc] at h
    exact (Except.ok.inj h).symm
  | some f =>
    simp only [hc] at h
    split at h
    next hf =>
      cases h
      exact ⟨hf, rfl⟩
    · cases h

theorem Job.fields_of_prepare {c : Config} {files : Files} {j : Job} {call : Call}
    (h : j.prepare c files = .ok call) :
    ∃ u v, authorize files c.tokenPath (forwarded j.fields) u = .ok (call.fields, v) := by
  obtain ⟨u, v, w, fields, -, hv, -, -, hcall⟩ := of_prepare h
  have hkept : call.fields = fields := by
    split at hcall
    · rw [hcall]
    · rw [hcall.2]
  exact ⟨u, v, hkept ▸ hv⟩

end ScrapeCourier
