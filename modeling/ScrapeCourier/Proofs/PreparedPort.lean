import ScrapeCourier.Proofs.NamedPort
import ScrapeCourier.Proofs.PreparedCall
import ScrapeCourier.Proofs.ReadTarget

namespace ScrapeCourier

open Http

namespace Preparation

variable {u v : Url} {fields kept : Fields}

theorem port_of_toHttps (h : toHttps u = .ok v) :
    v.effectivePort? = some (u.port.getD 443) ∧ v.port.getD 443 = u.port.getD 443 := by
  obtain ⟨-, rfl⟩ := toHttps_eq_ok.mp h
  have hd : Url.defaultPort? (secured u).scheme = some 443 := rfl
  rw [Url.effectivePort?, hd, secured]
  split
  next hp =>
    rw [hp]
    exact ⟨rfl, rfl⟩
  · cases u.port <;> exact ⟨rfl, rfl⟩

theorem effectivePort?_of_toLoopback {q : Nat} (h : toLoopback u (some q) = .ok v) :
    v.effectivePort? = some q := by
  rw [eq_pinned_of_toLoopback h, Url.effectivePort?, pinned]
  split
  next hd => exact hd.symm
  · rfl

theorem eq_of_checkPort {p q : Nat} (h : checkPort (some q) (.only p) = .ok ()) : q = p := by
  by_cases hp : p = q
  · exact hp.symm
  · simp [checkPort, PortRule.permits, hp] at h

/-- Whether a target is asked for over https, be it by its query or by a token. -/
def upgrades (c : Config) (u : Url) : Bool := c.tokenPath.isSome || asksForHttps u

theorem port_of_overrideScheme (h : overrideScheme u = .ok v) :
    v.port.getD 443 = u.port.getD 443 ∧
      v.effectivePort? = if asksForHttps u then some (u.port.getD 443) else u.effectivePort? := by
  rw [overrideScheme] at h
  split at h
  next ha =>
    obtain ⟨query, path, hu, -⟩ := withoutSchemePairs_eq u
    rw [hu] at h
    obtain ⟨he, hp⟩ := port_of_toHttps h
    exact ⟨hp, by rw [if_pos ha, he]⟩
  next ha =>
    cases h
    exact ⟨rfl, by rw [if_neg ha]⟩

theorem effectivePort?_of_authorize {c : Config} {files : Files} {w : Url}
    (h₁ : overrideScheme u = .ok v) (h₂ : authorize files c.tokenPath fields v = .ok (kept, w)) :
    w.effectivePort? = if upgrades c u then some (u.port.getD 443) else u.effectivePort? := by
  obtain ⟨hp, he⟩ := port_of_overrideScheme h₁
  rw [upgrades]
  cases ht : c.tokenPath with
  | none =>
    rw [ht] at h₂
    cases h₂
    simpa using he
  | some path =>
    rw [ht] at h₂
    obtain ⟨-, -, -, hw⟩ := authorize_some h₂
    rw [(port_of_toHttps hw).1, hp]
    rfl

end Preparation

open Preparation

theorem Job.prepare_cases {c : Config} {files : Files} {j : Job} {call : Call}
    (hc : c.federation = none) (h : j.prepare c files = .ok call) :
    ∃ u v fields, overrideScheme j.url = .ok u ∧
      authorize files c.tokenPath (forwarded j.fields) u = .ok (fields, v) ∧
      checkPort j.port c.allowPort = .ok () ∧
      (if c.useLocalhost then toLoopback v j.port else .ok v) = .ok call.url ∧
      call = ⟨j.method, call.url, fields, j.body⟩ := by
  obtain ⟨u, v, w, fields, hu, hv, hp, hw, hcall⟩ := of_prepare h
  rw [hc] at hcall
  subst hcall
  exact ⟨u, v, fields, hu, hv, hp, hw, rfl⟩

theorem Job.port_of_absolute {raw : Octets} {r : Request} {j : Job} {q : Nat} {scheme : Scheme}
    {a : Authority} {p : PathQuery} (hr : Request.decode raw = .ok r) (hj : Job.ofRequest r = .ok j)
    (hq : j.port = some q) (ht : r.target = .absolute scheme a p) :
    j.url.port = if Url.defaultPort? j.url.scheme = some q then none else some q := by
  have hread := Request.isRead_of_decode hr
  obtain ⟨url, hu, hj⟩ := bind_eq_ok.mp hj
  cases hj
  rw [ht] at hu hread
  have hq : a.port? = some q := by
    rw [← hq]
    simp only [ht]
    rfl
  exact Url.port_of_parse (Target.isRead_scheme hread) hq hu

/-- The port that a job names is the one that is contacted unless a change to https meets a URL that
does not hold it, and no rewrite to the loopback address puts it back. A target with a scheme does
not hold the default port of that scheme; a server alone, which is read as a scheme and a path,
does not even name it as a port. -/
theorem Job.effectivePort_prepare {raw : Octets} {r : Request} {j : Job} {c : Config}
    {files : Files} {call : Call} {q : Nat} (hr : Request.decode raw = .ok r)
    (hj : Job.ofRequest r = .ok j) (hq : j.port = some q) (hc : c.federation = none)
    (h : j.prepare c files = .ok call) :
    (call.url.effectivePort? = some q ↔ c.useLocalhost ∨
      if upgrades c j.url then j.url.port.getD 443 = q else j.url.effectivePort? = some q) ∧
    (∀ scheme a p, r.target = .absolute scheme a p →
      (call.url.effectivePort? = some q ↔ c.useLocalhost ∨ ¬upgrades c j.url ∨
        Url.defaultPort? j.url.scheme ≠ some q ∨ q = 443)) ∧
    ∀ p, c.allowPort = .only p → q = p := by
  obtain ⟨u, v, fields, hu, hv, hp, hl, -⟩ := prepare_cases hc h
  have hv' := effectivePort?_of_authorize hu hv
  rw [hq] at hp hl
  have hiff : call.url.effectivePort? = some q ↔ c.useLocalhost ∨
      if upgrades c j.url then j.url.port.getD 443 = q else j.url.effectivePort? = some q := by
    split at hl
    next hlocal => exact ⟨fun _ => .inl hlocal, fun _ => effectivePort?_of_toLoopback hl⟩
    next hlocal =>
      cases hl
      rw [hv', or_iff_right hlocal]
      split
      · exact Option.some_inj
      · exact Iff.rfl
  refine ⟨hiff, fun scheme a p ht => ?_, fun p ha => ?_⟩
  · have hport := j.port_of_absolute hr hj hq ht
    rw [hiff]
    apply or_congr_right
    -- The default port of a scheme is not held, and https takes 443 where none is held.
    by_cases hup : upgrades c j.url <;> by_cases hd : Url.defaultPort? j.url.scheme = some q
    · rw [if_pos hd] at hport
      simp [hup, hd, hport, eq_comm]
    · rw [if_neg hd] at hport
      simp [hup, hd, hport]
    · rw [if_pos hd] at hport
      simp [hup, hport, Url.effectivePort?, hd]
    · rw [if_neg hd] at hport
      simp [hup, hport, Url.effectivePort?]
  · rw [ha] at hp
    exact eq_of_checkPort hp

deriving instance DecidableEq for Job, Call

namespace PortExample

def raw : Octets :=
  Octets.ofAscii "GET http://node1:80/metrics?_scheme=https HTTP/1.1\r\n\r\n"

def request : Request where
  method := .get
  target := .absolute .http ⟨"node1:80".toList, by decide, by rfl⟩
    ⟨"/metrics".toList, some "_scheme=https".toList, by decide, by decide, by decide⟩
  version := .http11
  fields := .empty
  body := []

def job : Job where
  id := .empty
  method := .get
  url.scheme := "http".toList
  url.host := some (.domain "node1".toList)
  url.path := .segments ["metrics".toList]
  url.query := some "_scheme=https".toList
  port := some 80
  fields := .empty
  body := []

def config : Config where
  fqdn := "node1"
  relay.scheme := "http".toList
  relay.path := .segments [[]]
  allowPort := .only 80

def call : Call where
  method := .get
  url.scheme := "https".toList
  url.host := some (.domain "node1".toList)
  url.path := .segments ["metrics".toList]
  fields := .empty
  body := []

end PortExample

open PortExample in
theorem Job.effectivePort_prepare_upgraded :
    Request.decode raw = .ok request ∧ Job.ofRequest request = .ok job ∧ job.port = some 80 ∧
      job.prepare config (fun _ => .error .notFound) = .ok call ∧
      call.url.effectivePort? ≠ some 80 := by
  have hr : Request.decode raw = .ok request := eq_ok_of_toOption (by decide +kernel)
  have hj : Job.ofRequest request = .ok job := eq_ok_of_toOption (by decide +kernel)
  have hp : job.prepare config (fun _ => .error .notFound) = .ok call := by rfl
  refine ⟨hr, hj, rfl, hp, mt ((Job.effectivePort_prepare hr hj rfl rfl hp).2.1 _ _ _ rfl).mp ?_⟩
  decide +kernel

end ScrapeCourier
