import ScrapeCourier.Proofs.ReadTarget

namespace ScrapeCourier.Http

namespace Target

variable {host t : List Char} {k : Fields} {v : FieldValue}

/-- The server that a Host value is read as. -/
def serverPart (host : List Char) : List Char := host.takeWhile (!endsAuthority ·)

/-- What a Host value puts in front of the path. -/
def pathPart (host : List Char) : List Char := host.dropWhile (!endsAuthority ·)

theorem serverPart_eq_self_iff : serverPart host = host ↔ ∀ c ∈ host, endsAuthority c = false := by
  rw [serverPart, List.takeWhile_eq_self_iff]
  simp only [Bool.not_eq_true']

theorem pathPart_eq_nil (h : ∀ c ∈ host, endsAuthority c = false) : pathPart host = [] := by
  rw [pathPart, List.dropWhile_eq_nil_iff]
  intro c hc
  rw [h c hc]
  rfl

theorem span_join (host : List Char) (ht : t.head? = some '/') :
    (host ++ t).takeWhile (!endsAuthority ·) = serverPart host ∧
      (host ++ t).dropWhile (!endsAuthority ·) = pathPart host ++ t := by
  have hstop : ∀ c, (pathPart host ++ t).head? = some c → (!endsAuthority c) = false := by
    intro c hc
    cases hrest : pathPart host with
    | nil =>
      rw [hrest, List.nil_append, ht] at hc
      cases hc
      rfl
    | cons d s =>
      have hend := List.head?_dropWhile_not (!endsAuthority ·) host
      rw [hrest] at hc
      cases hc
      rwa [show host.dropWhile _ = pathPart host from rfl, hrest, List.head?_cons] at hend
  have h := Cut.span_append (fun c hc => List.mem_takeWhile_imp (l := host) hc) hstop
  rwa [pathPart, ← List.append_assoc, List.takeWhile_append_dropWhile] at h

/-- A target at a server, with what stands before a hash as its path and query. -/
def IsAt (target : Target) (server path : List Char) : Prop :=
  ∃ a p, target = .absolute .http a p ∧ a.text = server ∧ p.text = path.takeWhile (· ≠ '#')

/-- What it takes to join a path to a Host value. -/
structure Joins (host t : List Char) : Prop where
  size : Utf8.size ("http://".toList ++ host ++ t) ≤ 65534
  server : ∃ a : Authority, a.text = serverPart host
  path : ∃ p, PathQuery.read (pathPart host ++ t) = .ok p

theorem parse_http {s : List Char} (hl : Utf8.size ("http://".toList ++ s) ≤ 65534) :
    parse ("http://".toList ++ s) = readAbsolute .http s := by
  rw [parse, if_neg (Nat.not_lt_of_le hl)]
  rfl

theorem parse_joined (ht : t.head? = some '/') {target : Target} :
    parse ("http://".toList ++ host ++ t) = .ok target ↔
      Utf8.size ("http://".toList ++ host ++ t) ≤ 65534 ∧ ∃ a p, a.text = serverPart host ∧
        PathQuery.read (pathPart host ++ t) = .ok p ∧ target = .absolute .http a p := by
  by_cases hl : Utf8.size ("http://".toList ++ host ++ t) ≤ 65534
  · rw [and_iff_right hl]
    rw [List.append_assoc] at hl ⊢
    obtain ⟨htake, hdrop⟩ := span_join host ht
    rw [parse_http hl, readAbsolute_eq_ok, htake, hdrop]
    constructor
    · rintro ⟨a, p, ha, hp⟩
      exact ⟨a, p, a.text_of_read ha, hp⟩
    · rintro ⟨a, p, ha, hp⟩
      exact ⟨a, p, ha ▸ a.read_text, hp⟩
  · refine iff_of_false ?_ fun h => hl h.1
    rw [parse, if_pos (Nat.lt_of_not_le hl)]
    intro he
    cases he

theorem joins_iff (ht : t.head? = some '/') :
    Joins host t ↔ ∃ target, parse ("http://".toList ++ host ++ t) = .ok target := by
  constructor
  · rintro ⟨hl, ⟨a, ha⟩, p, hp⟩
    exact ⟨_, (parse_joined ht).mpr ⟨hl, a, p, ha, hp, rfl⟩⟩
  · rintro ⟨target, h⟩
    obtain ⟨hl, a, p, ha, hp, -⟩ := (parse_joined ht).mp h
    exact ⟨hl, ⟨a, ha⟩, p, hp⟩

theorem resolve_of_no_host (ht : t.head? = some '/') (hv : k.first? .host = some v)
    (h : v.text? = none ∨ v.text? = some []) : resolve t k = .error .missingHost := by
  rw [resolve, if_neg (not_not.mpr ht), hv]
  obtain h | h := h
  · rw [Option.bind_some, h]
    rfl
  · rw [Option.bind_some, h]
    rfl

theorem resolve_of_host (ht : t.head? = some '/') (hv : k.first? .host = some v)
    (hhost : v.text? = some host) (hne : host ≠ []) :
    resolve t k = (parse ("http://".toList ++ host ++ t)).mapError .badTarget := by
  have hfilter : ((k.first? .host).bind FieldValue.text?).filter (!·.isEmpty) = some host := by
    rw [hv, Option.bind_some, hhost, Option.filter_some, if_pos]
    simpa using hne
  rw [resolve, if_neg (not_not.mpr ht), hfilter]

theorem isAt_joined (ht : t.head? = some '/') {target : Target}
    (h : parse ("http://".toList ++ host ++ t) = .ok target) :
    target.IsAt (serverPart host) (PathQuery.withSlash (pathPart host ++ t)) := by
  obtain ⟨-, a, p, ha, hp, rfl⟩ := (parse_joined ht).mp h
  exact ⟨a, p, rfl, ha, PathQuery.text_of_read hp⟩

theorem isAt_iff (ht : t.head? = some '/') {target : Target}
    (h : target.IsAt (serverPart host) (PathQuery.withSlash (pathPart host ++ t))) :
    target.IsAt host t ↔ ∀ c ∈ host, endsAuthority c = false := by
  rw [← serverPart_eq_self_iff]
  constructor
  · rintro ⟨a, p, rfl, ha, -⟩
    obtain ⟨b, q, hb, hserver, -⟩ := h
    cases hb
    rw [← hserver, ha]
  · intro hserver
    have hpath := pathPart_eq_nil (serverPart_eq_self_iff.mp hserver)
    rwa [hserver, hpath, List.nil_append, PathQuery.withSlash, if_pos ht] at h

end Target

namespace Request

open Target

variable {raw rest : Octets} {head : RequestHead} {k : Fields} {v : FieldValue}

theorem decode_eq (hhead : readHead Head.request raw = .ok (head, rest))
    (hfields : Fields.ofLines head.lines = .ok k) :
    decode raw = do
      let target ← resolve head.target k
      let framing ← Framing.ofFields .absent k
      return ⟨head.method, target, head.version, k, ← framing.read rest⟩ := by
  rw [decode, hhead, ok_bind]
  dsimp only
  rw [hfields, ok_bind]

/-- What becomes of a path and the first Host value. A value that does not start with a server is
refused. Server and path are kept as they are if and only if the value holds no slash, question mark
or hash. Otherwise the server ends at the first of these, and from there on the value is read as
path, query or fragment. -/
theorem decode_origin (hhead : readHead Head.request raw = .ok (head, rest))
    (hfields : Fields.ofLines head.lines = .ok k) (hpath : head.target.head? = some '/')
    (hhost : k.first? .host = some v) :
    (v.text? = none ∨ v.text? = some [] → decode raw = .error .missingHost) ∧
    ∀ host, v.text? = some host → host ≠ [] →
      (¬Joins host head.target → ∃ e, decode raw = .error (.badTarget e)) ∧
      ((∃ r, decode raw = .ok r) ↔ Joins host head.target ∧
        ∃ f body, Framing.ofFields .absent k = .ok f ∧ f.read rest = .ok body) ∧
      ∀ r, decode raw = .ok r →
        r.target.IsAt (serverPart host) (PathQuery.withSlash (pathPart host ++ head.target)) ∧
        (r.target.IsAt host head.target ↔ ∀ c ∈ host, endsAuthority c = false) := by
  have hdecode := decode_eq hhead hfields
  refine ⟨fun hv => ?_, fun host hv hne => ⟨fun hn => ?_, ?_, fun r hr => ?_⟩⟩
  · rw [hdecode, resolve_of_no_host hpath hhost hv]
    rfl
  · obtain ⟨e, he⟩ := exists_error fun target ht => hn ((joins_iff hpath).mpr ⟨target, ht⟩)
    refine ⟨e, ?_⟩
    rw [hdecode, resolve_of_host hpath hhost hv hne, he]
    rfl
  · rw [joins_iff hpath, hdecode, resolve_of_host hpath hhost hv hne]
    constructor
    · rintro ⟨r, hr⟩
      obtain ⟨target, ht, hr⟩ := bind_eq_ok.mp hr
      obtain ⟨f, hf, hr⟩ := bind_eq_ok.mp hr
      obtain ⟨body, hbody, -⟩ := bind_eq_ok.mp hr
      exact ⟨⟨target, mapError_eq_ok.mp ht⟩, f, body, hf, hbody⟩
    · rintro ⟨⟨target, ht⟩, f, body, hf, hbody⟩
      exact ⟨_, bind_eq_ok.mpr ⟨target, mapError_eq_ok.mpr ht, bind_eq_ok.mpr
        ⟨f, hf, bind_eq_ok.mpr ⟨body, hbody, rfl⟩⟩⟩⟩
  · rw [hdecode, resolve_of_host hpath hhost hv hne] at hr
    obtain ⟨target, ht, hr⟩ := bind_eq_ok.mp hr
    obtain ⟨f, -, hr⟩ := bind_eq_ok.mp hr
    obtain ⟨body, -, hr⟩ := bind_eq_ok.mp hr
    cases hr
    have hat := isAt_joined hpath (mapError_eq_ok.mp ht)
    exact ⟨hat, isAt_iff hpath hat⟩

end Request

namespace OriginExample

def raw : Octets := Octets.ofAscii "GET /metrics HTTP/1.1\r\nHost: node1#\r\n\r\n"

def value : FieldValue := ⟨Octets.ofAscii "node1#", by decide, false⟩

def head : RequestHead where
  method := .get
  target := "/metrics".toList
  version := .http11
  lines := [⟨Octets.ofAscii "Host", value.octets⟩]

def fields : Fields := .ofList [⟨.host, value⟩]

end OriginExample

open OriginExample in
/-- Nothing is left of the path. -/
theorem decode_origin_hash :
    readHead Head.request raw = .ok (head, []) ∧ Fields.ofLines head.lines = .ok fields ∧
    head.target.head? = some '/' ∧ fields.first? .host = some value ∧
    ∃ r, Request.decode raw = .ok r ∧ r.target.IsAt "node1".toList "/".toList ∧
      ¬r.target.IsAt "node1#".toList "/metrics".toList := by
  have hhead : readHead Head.request raw = .ok (head, []) := eq_ok_of_toOption (by decide +kernel)
  have hfields : Fields.ofLines head.lines = .ok fields := eq_ok_of_toOption (by decide +kernel)
  have hhost : fields.first? .host = some value := by decide +kernel
  obtain ⟨-, hvalue⟩ := Request.decode_origin hhead hfields rfl hhost
  obtain ⟨-, hreads, hat⟩ := hvalue "node1#".toList (by decide +kernel) (by decide)
  have hjoins : Target.Joins "node1#".toList head.target := by
    refine ⟨by decide +kernel, ⟨⟨"node1".toList, by decide, by rfl⟩, by decide +kernel⟩, ?_⟩
    exact ⟨⟨"/".toList, none, by decide, by decide, by decide⟩,
      eq_ok_of_toOption (by decide +kernel)⟩
  obtain ⟨r, hr⟩ := hreads.mpr ⟨hjoins, .absent, [], by rfl, by rfl⟩
  obtain ⟨⟨a, p, ht, ha, hp⟩, hsame⟩ := hat r hr
  refine ⟨hhead, hfields, rfl, hhost, r, hr, ⟨a, p, ht, ha, hp⟩, mt hsame.mp ?_⟩
  decide

end ScrapeCourier.Http
