import ScrapeCourier.Proofs.BearerToken
import ScrapeCourier.Proofs.FormRoundTrip
import ScrapeCourier.Proofs.PreparedPort

namespace ScrapeCourier

open Http

namespace Url

namespace Parser

variable {u : Url} {scheme s : List Char}

theorem exists_segments_of_readServer (h : readServer scheme s = .ok u) :
    ∃ ss, u.path = .segments ss := by
  obtain ⟨⟨a, rest⟩, -, h⟩ := bind_eq_ok.mp h
  cases h
  exact ⟨_, rfl⟩

theorem exists_segments_of_readFileServer (h : readFileServer s = .ok u) :
    ∃ ss, u.path = .segments ss := by
  obtain ⟨host, ss, rest, rfl⟩ := eq_of_readFileServer h
  exact ⟨ss, rfl⟩

theorem exists_segments_of_readFile (h : readFile none s = .ok u) :
    ∃ ss, u.path = .segments ss := by
  unfold readFile at h
  split at h
  · split at h
    · split at h
      · split at h
        · exact exists_segments_of_readFileServer h
        · cases h
          exact ⟨_, rfl⟩
      · cases h
        exact ⟨_, rfl⟩
    · cases h
      exact ⟨_, rfl⟩
  · cases h
    exact ⟨_, rfl⟩

/-- Only a scheme that is not special can have a path that stands for itself. -/
theorem of_readOther (h : readOther scheme s = .ok u) :
    u.scheme = scheme ∨ ∃ ss, u.path = .segments ss := by
  unfold readOther at h
  split at h
  · exact .inr (exists_segments_of_readServer h)
  · cases h
    exact .inr ⟨_, rfl⟩
  · cases h
    exact .inl rfl

end Parser

variable {u : Url} {s : List Char}

theorem exists_segments_of_parse (h : parse s = .ok u) (hu : u.kind.isSpecial) :
    ∃ ss, u.path = .segments ss := by
  simp only [parse, Parser.read] at h
  split at h
  next scheme rest _ =>
    split at h
    · exact Parser.exists_segments_of_readFile h
    · exact Parser.exists_segments_of_readServer h
    next hk =>
      obtain hs | hs := Parser.of_readOther h
      · rw [kind, hs, hk] at hu
        cases hu
      · exact hs
  · cases h

theorem queryPairs_setQueryPairs (u : Url) (ps : List Form.Pair) :
    (u.setQueryPairs ps).queryPairs = ps :=
  Form.decode_encode ps

end Url

namespace Preparation

variable {u v : Url} {files : Files} {fields kept : Fields}

theorem queryPairs_withoutSchemePairs (u : Url) :
    (withoutSchemePairs u).queryPairs = u.queryPairs.filter (·.1 ≠ schemeName) := by
  rw [withoutSchemePairs]
  split
  next h =>
    rw [h]
    rfl
  · exact u.queryPairs_setQueryPairs _

theorem parts_of_overrideScheme (hpath : u.kind.isSpecial → ∃ ss, u.path = .segments ss)
    (h : overrideScheme u = .ok v) : v = { u with
      scheme := if asksForHttps u then "https".toList else u.scheme
      port := v.port
      query := v.query } := by
  rw [overrideScheme] at h
  split at h
  next ha =>
    obtain ⟨query, path, hu, -, hsegments⟩ := withoutSchemePairs_eq u
    rw [hu] at h
    obtain ⟨⟨hspecial, -⟩, rfl⟩ := toHttps_eq_ok.mp h
    obtain ⟨ss, hss⟩ := hpath hspecial
    rw [if_pos ha, hsegments ss hss]
    rfl
  next ha =>
    cases h
    rw [if_neg ha]

theorem query_of_overrideScheme (h : overrideScheme u = .ok v) :
    (asksForHttps u = false → v.query = u.query) ∧
      (asksForHttps u → v.queryPairs = u.queryPairs.filter (·.1 ≠ schemeName)) := by
  rw [overrideScheme] at h
  split at h
  next ha =>
    rw [(toHttps_eq_ok.mp h).2]
    exact ⟨fun hn => absurd ha (by simp [hn]), fun _ => queryPairs_withoutSchemePairs u⟩
  next ha =>
    cases h
    exact ⟨fun _ => rfl, fun hn => absurd hn ha⟩

theorem parts_of_authorize {path? : Option String}
    (h : authorize files path? fields u = .ok (kept, v)) : v = { u with
      scheme := if path?.isSome then "https".toList else u.scheme
      port := v.port } := by
  cases path? with
  | none =>
    cases h
    rfl
  | some path =>
    obtain ⟨w, -, -, hv⟩ := authorize_some h
    rw [(toHttps_eq_ok.mp hv).2]
    rfl

theorem parts_of_rewrite {localhost : Bool} {port : Option Nat}
    (h : (if localhost then toLoopback u port else .ok u) = .ok v) : v = { u with
      host := if localhost ∧ port.isSome then some (loopbackHost u.kind) else u.host
      port := v.port } := by
  split at h
  next hl =>
    cases port with
    | none =>
      cases h
      simp
    | some p =>
      rw [eq_pinned_of_toLoopback h, if_pos ⟨hl, rfl⟩]
      rfl
  next hl =>
    cases h
    rw [if_neg fun hn => hl hn.1]

/-- The fields of a job, and those of its request. -/
structure Forwards (c : Config) (files : Files) (fields kept : Fields) : Prop where
  relay : ∀ n, isRelayField n → kept.values n = []
  authorization : ∀ path, c.tokenPath = some path → ∃ octets text,
    files path = .ok octets ∧ Utf8.decode? octets = some text ∧
      (kept.values .authorization).map (·.octets) =
        [Octets.ofAscii "Bearer " ++ Utf8.encode (Blank.trim text)]
  others : ∀ n, isRelayField n = false → (n = .authorization → c.tokenPath = none) →
    kept.values n = fields.values n

theorem values_forwarded (n : FieldName) :
    (forwarded fields).values n = if isRelayField n then [] else fields.values n :=
  Fields.values_removeAll relayFields

theorem forwards_of_authorize {c : Config}
    (h : authorize files c.tokenPath (forwarded fields) u = .ok (kept, v)) :
    Forwards c files fields kept := by
  cases hc : c.tokenPath with
  | none =>
    rw [hc] at h
    cases h
    refine ⟨fun n hn => ?_, ?_, fun n hn _ => ?_⟩
    · rw [values_forwarded, if_pos hn]
    · rw [hc]
      exact nofun
    · rw [values_forwarded, if_neg (by rw [hn]; exact Bool.false_ne_true)]
  | some path =>
    rw [hc] at h
    obtain ⟨w, hw, rfl, -⟩ := authorize_some h
    have hvalues {n : FieldName} (hn : n ≠ .authorization) :
        ((forwarded fields).insert .authorization w).values n =
          if isRelayField n then [] else fields.values n := by
      rw [Fields.values_insert_of_ne hn, values_forwarded]
    refine ⟨fun n hn => ?_, fun path' hpath => ?_, fun n hn hne => ?_⟩
    · have hne : n ≠ .authorization := by
        rintro rfl
        exact absurd hn (by decide)
      rw [hvalues hne, if_pos hn]
    · cases hc.symm.trans hpath
      obtain ⟨octets, text, hoctets, htext, hw, -⟩ := exists_text_of_readBearer hw
      refine ⟨octets, text, hoctets, htext, ?_⟩
      rw [Fields.values_insert_self, List.map_singleton, hw]
    · have hne : n ≠ .authorization := fun he => nomatch hc.symm.trans (hne he)
      rw [hvalues hne, if_neg (by rw [hn]; exact Bool.false_ne_true)]

end Preparation

open Preparation

theorem Job.exists_parse_of_decode {raw : Octets} {j : Job} (h : decode raw = .ok j) :
    ∃ s, Url.parse s = .ok j.url := by
  obtain ⟨r, -, h⟩ := bind_eq_ok.mp h
  obtain ⟨url, hurl, h⟩ := bind_eq_ok.mp (mapError_eq_ok.mp h)
  cases h
  exact ⟨_, hurl⟩

/-- The request for a job whose target is asked, part by part. -/
structure Job.IsRewritten (c : Config) (j : Job) (call : Call) : Prop where
  method : call.method = j.method
  body : call.body = j.body
  userinfo : call.url.username = j.url.username ∧ call.url.password = j.url.password
  path : call.url.path = j.url.path
  fragment : call.url.fragment = j.url.fragment
  host : if c.useLocalhost ∧ j.port.isSome then call.url.host.map Url.Host.text = some loopbackName
    else call.url.host = j.url.host
  scheme : call.url.scheme = if upgrades c j.url then "https".toList else j.url.scheme
  query : asksForHttps j.url = false → call.url.query = j.url.query
  pairs : asksForHttps j.url → call.url.queryPairs = j.url.queryPairs.filter (·.1 ≠ schemeName)

section Prepared

variable {c : Config} {files : Files} {j : Job} {call : Call} {s : List Char}

/-- Whatever can be told of a URL without its scheme, host, port and query stays. -/
theorem Job.part_of_prepare (hs : Url.parse s = .ok j.url) (hc : c.federation = none)
    (h : j.prepare c files = .ok call) {α : Type} (part : Url → α)
    (hpart : ∀ u : Url, ∀ scheme host port query,
      part { u with scheme, host, port, query } = part u) : part call.url = part j.url := by
  obtain ⟨u, v, fields, hu, hv, -, hw, -⟩ := prepare_cases hc h
  rw [parts_of_rewrite hw, hpart, parts_of_authorize hv, hpart,
    parts_of_overrideScheme (Url.exists_segments_of_parse hs) hu, hpart]

theorem Job.isRewritten_of_prepare (hs : Url.parse s = .ok j.url) (hc : c.federation = none)
    (h : j.prepare c files = .ok call) : j.IsRewritten c call := by
  have hpart {α : Type} := j.part_of_prepare hs hc h (α := α)
  obtain ⟨u, v, fields, hu, hv, -, hw, hcall⟩ := prepare_cases hc h
  obtain ⟨hquery, hpairs⟩ := query_of_overrideScheme hu
  have hu := parts_of_overrideScheme (Url.exists_segments_of_parse hs) hu
  have hv := parts_of_authorize hv
  have hw := parts_of_rewrite hw
  have hsame : call.url.query = u.query := by rw [hw, hv]
  refine ⟨by rw [hcall], by rw [hcall], ⟨?_, ?_⟩, ?_, ?_, ?_, ?_, ?_, ?_⟩
  · exact hpart Url.username fun _ _ _ _ _ => rfl
  · exact hpart Url.password fun _ _ _ _ _ => rfl
  · exact hpart Url.path fun _ _ _ _ _ => rfl
  · exact hpart Url.fragment fun _ _ _ _ _ => rfl
  · rw [hw]
    split
    · rw [Option.map_some, text_loopbackHost]
    · rw [hv, hu]
  · rw [hw, hv, hu, upgrades]
    cases c.tokenPath with
    | none => simp
    | some path => simp
  · rw [hsame]
    exact hquery
  · rw [Url.queryPairs, hsame]
    exact hpairs

/-- What is sent for a job. Its URL is one that was read, and so has segments where a change to
https would trim any other path. -/
theorem Job.prepare_parts (hs : Url.parse s = .ok j.url) (h : j.prepare c files = .ok call) :
    Forwards c files j.fields call.fields ∧
    (c.federation = none → j.IsRewritten c call) ∧
    ∀ f, c.federation = some f →
      call.method = .get ∧ call.body = [] ∧ f.endpoint = .ok call.url := by
  refine ⟨?_, fun hc => isRewritten_of_prepare hs hc h, fun f hc => ?_⟩
  · obtain ⟨u, v, hv⟩ := fields_of_prepare h
    exact forwards_of_authorize hv
  · obtain ⟨u, v, w, fields, -, -, -, -, hcall⟩ := of_prepare h
    rw [hc] at hcall
    exact ⟨by rw [hcall.2], by rw [hcall.2], hcall.1⟩

end Prepared

namespace PartsExample

/-- A job that asks for https, with fields for the relay and an authorization of its own. -/
def raw : Octets :=
  Octets.ofAscii "GET http://u@node1:9100/a%20b?x=1&_scheme=https&y=a+b&_scheme=http HTTP/1.1\r\n" ++
    Octets.ofAscii "TE:\r\nAccept: 1\r\nAuthorization: 2\r\nConnection:\r\nAccept: 3\r\n" ++
    Octets.ofAscii "Content-Length: 2\r\n\r\nup"

def job : Job where
  id := .empty
  method := .get
  url.scheme := "http".toList
  url.username := "u".toList
  url.host := some (.domain "node1".toList)
  url.port := some 9100
  url.path := .segments ["a%20b".toList]
  url.query := some "x=1&_scheme=https&y=a+b&_scheme=http".toList
  port := some 9100
  fields := .ofList [⟨.te, .empty⟩, ⟨.accept, .number 1⟩, ⟨.authorization, .number 2⟩,
    ⟨.connection, .empty⟩, ⟨.accept, .number 3⟩, ⟨.contentLength, .number 2⟩]
  body := Octets.ofAscii "up"

def config : Config where
  fqdn := "node1"
  relay.scheme := "http".toList
  relay.path := .segments [[]]
  tokenPath := some "token"
  useLocalhost := true

def federated : Config := { config with
  federation := some {
    base.scheme := "http".toList
    base.host := some (.domain "prometheus".toList)
    base.path := .segments [[]]
    selectors := ["up".toList] } }

def files : Files := fun _ => .ok (Octets.ofAscii " s3cret\n")

end PartsExample

open PartsExample in
theorem Job.prepare_parts_upgraded :
    Job.decode raw = .ok job ∧
    (∃ call, job.prepare config files = .ok call ∧ call.url.username = "u".toList ∧
      call.url.path = job.url.path ∧ call.url.scheme = "https".toList ∧
      call.url.host.map Url.Host.text = some loopbackName ∧
      call.url.queryPairs = [("x".toList, "1".toList), ("y".toList, "a b".toList)] ∧
      call.fields.values .accept = [.number 1, .number 3] ∧ call.fields.values .te = []) ∧
    ∃ call, job.prepare federated files = .ok call ∧ call.method = .get ∧ call.body = [] ∧
      (call.fields.values .authorization).map (·.octets) = [Octets.ofAscii "Bearer s3cret"] := by
  have hj : Job.decode raw = .ok job := eq_ok_of_toOption (by decide +kernel)
  obtain ⟨s, hs⟩ := Job.exists_parse_of_decode hj
  refine ⟨hj, ?_, ?_⟩
  · have hread : (job.prepare config files).isOk := by decide +kernel
    cases hp : job.prepare config files with
    | error e => rw [hp] at hread; cases hread
    | ok call =>
      obtain ⟨hfields, hurl, -⟩ := Job.prepare_parts hs hp
      have hurl := hurl rfl
      refine ⟨call, rfl, hurl.userinfo.1, hurl.path, ?_, ?_, ?_, ?_, hfields.relay _ (by decide)⟩
      · exact hurl.scheme
      · have hhost := hurl.host
        rwa [if_pos ⟨rfl, rfl⟩] at hhost
      · rw [hurl.pairs (by decide +kernel)]
        decide +kernel
      · rw [hfields.others _ (by decide) fun hn => absurd hn (by decide)]
        rfl
  · have hread : (job.prepare federated files).isOk := by decide +kernel
    cases hp : job.prepare federated files with
    | error e => rw [hp] at hread; cases hread
    | ok call =>
      obtain ⟨hfields, -, hcall⟩ := Job.prepare_parts hs hp
      obtain ⟨hmethod, hbody, -⟩ := hcall _ rfl
      obtain ⟨octets, text, hoctets, htext, hvalues⟩ := hfields.authorization _ rfl
      refine ⟨call, rfl, hmethod, hbody, ?_⟩
      rw [hvalues]
      cases hoctets
      cases htext
      rfl

end ScrapeCourier
