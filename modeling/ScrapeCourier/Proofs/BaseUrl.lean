import ScrapeCourier.Agent.Arguments
import ScrapeCourier.Proofs.BelowBase
import ScrapeCourier.Proofs.SlashedPath

namespace ScrapeCourier

/-- The last character is a slash, and the one before is none. -/
def EndsInOneSlash (s : List Char) : Prop := ∃ t, s = t ++ ['/'] ∧ t.getLast? ≠ some '/'

namespace Url

variable {u : Url}

theorem getLast?_server_ne {h : Host} (hne : h.text ≠ []) {s t : List Char}
    (hs : ∀ c ∈ h.text ++ t, Host.isServerChar c) :
    (s ++ (h.text ++ t)).getLast? ≠ some '/' := by
  rw [List.getLast?_append_of_ne_nil _ (List.append_ne_nil_of_left_ne_nil hne t)]
  intro hc
  cases hs '/' (List.mem_of_getLast? hc)

theorem Host.IsHost.text_ne_nil_of_ne {scheme : List Char} {h : Host} (hh : h.IsHost scheme)
    (hne : h ≠ .empty) : h.text ≠ [] := by
  intro he
  by_cases hs : (kindOf scheme).isSpecial
  · exact hh.text_ne_nil hs he
  · have hread := Host.readLiteral_text (hh.isLiteral hs)
    rw [he] at hread
    cases hread
    exact hne rfl

section

open Url.Parser

variable (hu : IsParsed u)
include hu

theorem getLast?_authorityText (hh : u.host ≠ some .empty) :
    u.authorityText.getLast? ≠ some '/' := by
  have hbare (hb : IsBare u) : u.authorityText.getLast? ≠ some '/' := by
    have hnone : u.host = none := by rw [hb]
    simp only [authorityText, hnone]
    split
    · decide
    · decide
  cases hu.form with
  | @server h _ _ hhost _ hs =>
    have hne : h ≠ .empty := by
      rintro rfl
      exact hh hhost
    rw [authorityText_of_host hhost, List.append_assoc, ← List.append_assoc]
    exact getLast?_server_ne (hs.host.text_ne_nil_of_ne hne) hs.all_isServerChar
  | rooted _ hb => exact hbare hb
  | whole _ hb => exact hbare hb
  | @file h _ hf =>
    have hne : h.text ≠ [] := by
      obtain rfl | ⟨hg, -⟩ := hf.host
      · rw [hf.eq] at hh
        exact absurd rfl hh
      · exact hg.text_ne_nil
    rw [hf.authorityText_eq, ← List.append_nil h.text]
    refine getLast?_server_ne hne fun c hc => ?_
    rw [List.append_nil] at hc
    exact hf.isClosed.all_isServerChar c hc

theorem endsInOneSlash_chars (hp : EndsInOneSlash u.path.text) (hq : u.query = none)
    (hf : u.fragment = none) (hh : u.path.text = ['/'] → u.host ≠ some .empty) :
    EndsInOneSlash u.chars := by
  obtain ⟨t, ht, hlast⟩ := hp
  refine ⟨u.scheme ++ ':' :: (u.authorityText ++ t), ?_, ?_⟩
  · simp [chars_eq, ht, queryText, fragmentText, hq, hf]
  · rw [List.getLast?_append, List.getLast?_cons, List.getLast?_append, Option.some_or]
    intro hc
    cases t with
    | nil =>
      have hend := getLast?_authorityText hu (hh ht)
      cases ha : u.authorityText.getLast? with
      | none =>
        rw [ha] at hc
        cases hc
      | some c =>
        rw [ha] at hc hend
        exact hend hc
    | cons c t =>
      rw [List.getLast?_eq_some_getLast (List.cons_ne_nil c t)] at hc hlast
      exact hlast hc

end

end Url

namespace Endpoint

open Url

inductive Leg
  | poll
  | push
  | federate (selectors : List (List Char))

namespace Leg

def name : Leg → List Char
  | .poll => "poll".toList
  | .push => "push".toList
  | .federate _ => "federate".toList

def endpoint (base : Url) : Leg → Except Url.UrlError Url
  | .poll => (ofRelay base "poll".toList).mapError (·.cause)
  | .push => (ofRelay base "push".toList).mapError (·.cause)
  | .federate selectors => (Federation.mk base selectors).endpoint

def query : Leg → Option (List Char)
  | .federate selectors => some (Form.encode (selectors.map ("match[]".toList, ·)))
  | _ => none

variable (l : Leg)

theorem isName_name : IsName l.name := by
  have key : IsName "poll".toList ∧ IsName "push".toList ∧ IsName "federate".toList :=
    ⟨⟨by decide, by decide⟩, ⟨by decide, by decide⟩, ⟨by decide, by decide⟩⟩
  cases l with
  | poll => exact key.1
  | push => exact key.2.1
  | federate selectors => exact key.2.2

theorem endpoint_eq (base : Url) : l.endpoint base = match base.path with
    | .whole _ => .error .opaqueBase
    | .segments _ => .ok { base with
        path := .segments (base.front ++ [l.name]), query := l.query, fragment := none } := by
  have hjoin : base.join l.name = _ := join_eq l.isName_name
  cases l with
  | poll =>
    change base.join "poll".toList = _ at hjoin
    rw [endpoint, ofRelay, hjoin]
    cases base.path with
    | whole s => rfl
    | segments ss => rfl
  | push =>
    change base.join "push".toList = _ at hjoin
    rw [endpoint, ofRelay, hjoin]
    cases base.path with
    | whole s => rfl
    | segments ss => rfl
  | federate selectors =>
    change base.join "federate".toList = _ at hjoin
    rw [endpoint, Federation.endpoint, hjoin]
    cases base.path with
    | whole s => rfl
    | segments ss => rfl

end Leg

/-- Either no leg can be resolved, or each is, and comes behind the path if that ends in a slash. -/
theorem endpoint_cases {u : Url} (hu : Parser.IsParsed u) (l : Leg) : match u.path with
    | .whole _ => l.endpoint u = .error .opaqueBase
    | .segments _ => ∃ v, l.endpoint u = .ok v ∧
        (v.IsBelow u l.name ↔ u.path.text.getLast? = some '/') := by
  have h := l.endpoint_eq u
  cases hp : u.path with
  | whole s =>
    rw [hp] at h
    exact h
  | segments ss =>
    rw [hp] at h
    refine ⟨_, h, ?_⟩
    rw [getLast?_text (not_mem_of_isParsed hu hp), ← text_front_iff hu hp l.name]
    exact ⟨fun hb => hb.path, fun ht => ⟨rfl, rfl, rfl, rfl, rfl, ht⟩⟩

def stem (raw : List Char) : List Char := ((Blank.trim raw).reverse.dropWhile (· == '/')).reverse

theorem getLast?_stem (raw : List Char) : (stem raw).getLast? ≠ some '/' := by
  rw [stem, List.getLast?_reverse]
  intro h
  have hfirst := List.head?_dropWhile_not (· == '/') (Blank.trim raw).reverse
  rw [h] at hfirst
  cases hfirst

/-- No query or fragment is marked in it, and nothing in it is passed over when it is read. -/
def IsPlain (raw : List Char) : Prop :=
  ∀ c ∈ stem raw, Parser.endsPath c = false ∧ Parser.isDropped c = false

theorem parse_of_readBase {raw : List Char} {u : Url} (h : readBase raw = .ok u) :
    parse (stem raw ++ ['/']) = .ok u := mapError_eq_ok.mp h

theorem endsInSlash_of_isPlain {raw : List Char} {u : Url} (h : readBase raw = .ok u)
    (hp : IsPlain raw) :
    u.path.text.getLast? = some '/' ∧ u.query = none ∧ u.fragment = none := by
  have hslashed := Parser.isSlashed_of_parse hp (getLast?_stem raw) (parse_of_readBase h)
  refine ⟨?_, hslashed.query, hslashed.fragment⟩
  have hpath := hslashed.path
  split at hpath
  next hu =>
    obtain ⟨vs, rfl, -⟩ := hpath
    rw [hu, Path.text_concat]
    exact List.getLast?_concat
  next hu =>
    obtain ⟨v, rfl, -⟩ := hpath
    rw [hu]
    exact List.getLast?_concat

/-- Nothing of the text but that slash ends the path. -/
def KeepsSlash (raw : List Char) (u : Url) : Prop :=
  IsPlain raw ∧ (u.IsHierarchical → Parser.EndStays u.kind.isSpecial (stem raw))

theorem endsInOneSlash_of_keepsSlash {raw : List Char} {u : Url} (h : readBase raw = .ok u)
    (hk : KeepsSlash raw u) : EndsInOneSlash u.path.text := by
  have hu := Parser.isParsed_of_parse (parse_of_readBase h)
  have hpath := (Parser.isSlashed_of_parse hk.1 (getLast?_stem raw) (parse_of_readBase h)).path
  split at hpath
  next hp =>
    obtain ⟨vs, rfl, hlast⟩ := hpath
    refine ⟨(Path.segments vs).text, ?_, ?_⟩
    · rw [hp, Path.text_concat]
    · rw [ne_eq, getLast?_text fun w hw => not_mem_of_isParsed hu hp w (List.mem_append_left _ hw)]
      exact hlast (hk.2 ⟨_, hp⟩)
  next hp =>
    rw [hp]
    exact hpath

theorem not_isBlank_of_isAlpha {c : Char} (h : Ascii.isAlpha c) : Blank.isBlank c = false := by
  have hrange := Ascii.range_of_isAlphanum (c := c) (by rw [Ascii.isAlphanum, h]; rfl)
  simp [Blank.isBlank]
  omega

theorem trim_eq {s : List Char} (hfirst : ∀ c, s.head? = some c → Blank.isBlank c = false)
    (hlast : ∀ c, s.getLast? = some c → Blank.isBlank c = false) : Blank.trim s = s := by
  rw [Blank.trim, Blank.trimStart, Blank.trimEnd, Cut.dropWhile_of_head? hfirst,
    Cut.dropWhile_of_getLast? hlast]

theorem readBase_chars {u : Url} (hu : Parser.IsParsed u)
    (hd : u.kind = .file → Parser.driveSegments (Parser.pathSegments u) = Parser.pathSegments u)
    (he : EndsInOneSlash u.chars) : readBase u.chars = .ok u := by
  obtain ⟨t, ht, hlast⟩ := he
  have htrim : Blank.trim u.chars = u.chars := by
    apply trim_eq
    · obtain ⟨d, s, hs, hd⟩ := hu.scheme.exists_cons
      intro c hc
      rw [Parser.chars_eq, hs] at hc
      cases hc
      exact not_isBlank_of_isAlpha hd
    · intro c hc
      rw [ht, List.getLast?_concat] at hc
      cases hc
      rfl
  have htext : baseText u.chars = u.chars := by
    rw [baseText, htrim, ht, List.reverse_concat, List.dropWhile_cons_of_pos rfl,
      Cut.dropWhile_of_getLast?]
    intro c hc
    rw [beq_eq_false_iff_ne]
    rintro rfl
    exact hlast hc
  rw [readBase, htext, Parser.parse_chars hu hd]
  rfl

end Endpoint

theorem Arguments.of_config {a : Arguments} {hostName : String} {c : Config}
    {m : Option SocketAddress} (h : a.config hostName = .ok (c, m)) :
    (∃ raw, a.proxyUrl = some raw ∧ Endpoint.readBase raw = .ok c.relay) ∧
      ∀ f, c.federation = some f →
        ∃ raw, a.federateUrl = some raw ∧ Endpoint.readBase raw = .ok f.base := by
  unfold config at h
  extract_lets onProxy at h
  obtain ⟨raw, hraw, h⟩ : ∃ raw, a.proxyUrl = some raw ∧ onProxy raw = .ok (c, m) := by
    split at h
    next raw hraw =>
      split at h
      · cases h
      · exact ⟨raw, hraw, h⟩
    · cases h
  unfold onProxy at h
  extract_lets onFederation at h
  obtain ⟨federation, hfederation, h⟩ : ∃ federation : Option Federation,
      (∀ f, federation = some f →
        ∃ raw, a.federateUrl = some raw ∧ Endpoint.readBase raw = .ok f.base) ∧
      onFederation federation = .ok (c, m) := by
    split at h
    next raw hraw =>
      obtain ⟨base, hbase, h⟩ := bind_eq_ok.mp h
      refine ⟨_, ?_, h⟩
      intro f hf
      cases hf
      exact ⟨raw, hraw, mapError_eq_ok.mp hbase⟩
    · exact ⟨none, nofun, h⟩
  obtain ⟨relay, hrelay, h⟩ := bind_eq_ok.mp h
  obtain ⟨address, -, h⟩ := bind_eq_ok.mp h
  obtain ⟨rule, -, h⟩ := bind_eq_ok.mp h
  obtain ⟨-, -, h⟩ := bind_eq_ok.mp h
  cases h
  exact ⟨⟨raw, hraw, mapError_eq_ok.mp hrelay⟩, hfederation⟩

namespace Endpoint

open Url

theorem isOk_endpoint (l : Leg) (base : Url) : (l.endpoint base).isOk ↔ base.IsHierarchical := by
  rw [l.endpoint_eq]
  cases hp : base.path with
  | whole s =>
    refine iff_of_false Bool.false_ne_true ?_
    rintro ⟨ss, hss⟩
    cases hp.symm.trans hss
  | segments ss => exact iff_of_true rfl ⟨ss, hp⟩

/-- Every leg comes behind the whole path of the base, unless the base has no such path or is read
from a text with a query or fragment. A base that ends in one slash is read back from its text. -/
theorem legs_of_readBase {raw : List Char} {u : Url} (h : readBase raw = .ok u) :
    (∀ l : Leg, match u.path with
      | .whole _ => l.endpoint u = .error .opaqueBase
      | .segments _ => ∃ v, l.endpoint u = .ok v ∧
          (v.IsBelow u l.name ↔ u.path.text.getLast? = some '/')) ∧
    (u.kind.isSpecial → u.IsHierarchical) ∧
    (IsPlain raw → u.path.text.getLast? = some '/' ∧ u.query = none ∧ u.fragment = none) ∧
    (KeepsSlash raw u → EndsInOneSlash u.path.text ∧
      ((u.path.text = ['/'] → u.host ≠ some .empty) → EndsInOneSlash u.chars)) ∧
    (EndsInOneSlash u.chars →
      (u.kind = .file → Parser.driveSegments (Parser.pathSegments u) = Parser.pathSegments u) →
      readBase u.chars = .ok u) ∧
    ∀ (a : Arguments) (hostName : String) (c : Config) (m : Option SocketAddress),
      a.config hostName = .ok (c, m) →
      (∃ raw, a.proxyUrl = some raw ∧ readBase raw = .ok c.relay) ∧
      (c.pollUrl.isOk ↔ c.relay.IsHierarchical) ∧ (c.pushUrl.isOk ↔ c.relay.IsHierarchical) ∧
      ∀ f, c.federation = some f →
        (∃ raw, a.federateUrl = some raw ∧ readBase raw = .ok f.base) ∧
        (f.endpoint.isOk ↔ f.base.IsHierarchical) := by
  have hu := Parser.isParsed_of_parse (parse_of_readBase h)
  refine ⟨endpoint_cases hu, isHierarchical_of_isSpecial hu, endsInSlash_of_isPlain h, ?_,
    fun he hd => readBase_chars hu hd he, ?_⟩
  · intro hk
    have hpath := endsInOneSlash_of_keepsSlash h hk
    obtain ⟨-, hquery, hfragment⟩ := endsInSlash_of_isPlain h hk.1
    exact ⟨hpath, endsInOneSlash_chars hu hpath hquery hfragment⟩
  -- Arguments are read by the same reader, for the relay and for a federation.
  · intro a hostName c m hc
    obtain ⟨hrelay, hfederation⟩ := a.of_config hc
    refine ⟨hrelay, ?_, ?_, fun f hf => ⟨hfederation f hf, ?_⟩⟩
    · rw [← isOk_endpoint .poll, Config.pollUrl, isOk_mapError, Leg.endpoint, isOk_mapError]
    · rw [← isOk_endpoint .push, Config.pushUrl, isOk_mapError, Leg.endpoint, isOk_mapError]
    · exact isOk_endpoint (.federate f.selectors) f.base

namespace Example

def raw : List Char := "https://relay.example.com/prefix///".toList

def base : Url where
  scheme := "https".toList
  host := some (.domain "relay.example.com".toList)
  path := .segments ["prefix".toList, []]

def arguments : Arguments where
  fqdn := none
  proxyUrl := some raw
  tls := {}
  metricsAddr := []
  tokenPath := none
  useLocalhost := false
  allowPort := "*".toList
  retryInitial := .ofSeconds 1
  retryLongest := .ofSeconds 5
  pushGrace := .ofSeconds 5
  drainTimeout := .ofSeconds 30
  federateUrl := some "http://prometheus:9090/base".toList
  selectors := ["up".toList]

end Example

open Example in
theorem legs_of_readBase_prefix :
    readBase raw = .ok base ∧ base.text = "https://relay.example.com/prefix/" ∧
    EndsInOneSlash base.path.text ∧
    (∀ l : Leg, ∃ v, l.endpoint base = .ok v ∧ v.IsBelow base l.name) ∧
    readBase base.chars = .ok base ∧
    ∃ c m, arguments.config "node1" = .ok (c, m) ∧ c.pollUrl.isOk ∧ c.pushUrl.isOk ∧
      ∃ f, c.federation = some f ∧ f.endpoint.isOk := by
  have hread : readBase raw = .ok base := eq_ok_of_toOption (by decide +kernel)
  have hkeeps : KeepsSlash raw base := by
    constructor
    · unfold IsPlain
      decide +kernel
    · intro _ w hw
      have hlast : (Parser.segmentsOf base.kind.isSpecial (stem raw)).getLast? =
          some "prefix".toList := by
        decide +kernel
      cases hw.symm.trans hlast
      unfold Parser.Stays
      decide
  obtain ⟨hlegs, -, -, hends, hagain, hconfigs⟩ := legs_of_readBase hread
  obtain ⟨hpath, htext⟩ := hends hkeeps
  refine ⟨hread, by decide +kernel, hpath, fun l => ?_, hagain (htext (by decide)) (by decide), ?_⟩
  · obtain ⟨v, hv, hbelow⟩ := hlegs l
    exact ⟨v, hv, hbelow.mpr (by decide)⟩
  · have hsome : ((arguments.config "node1").toOption.bind (·.1.federation)).isSome := by
      decide +kernel
    have hspecial : (readBase "http://prometheus:9090/base".toList).toOption.all
        (·.kind.isSpecial) := by
      decide +kernel
    obtain ⟨f, hf⟩ := Option.isSome_iff_exists.mp hsome
    obtain ⟨⟨c, m⟩, hconfig, hf⟩ := Option.bind_eq_some_iff.mp hf
    have hconfig := eq_ok_of_toOption hconfig
    obtain ⟨⟨_, hraw, hrelay⟩, hpoll, hpush, hall⟩ := hconfigs _ _ _ _ hconfig
    obtain ⟨⟨_, hraw', hbase⟩, hendpoint⟩ := hall f hf
    cases hraw
    cases hraw'
    have hsame : c.relay = base := Except.ok.inj (hrelay.symm.trans hread)
    have hrelay : c.relay.IsHierarchical := by
      rw [hsame]
      exact ⟨_, rfl⟩
    rw [hbase] at hspecial
    exact ⟨c, m, hconfig, hpoll.mpr hrelay, hpush.mpr hrelay, f, hf,
      hendpoint.mpr ((legs_of_readBase hbase).2.1 hspecial)⟩

/-- A query takes the slash that is meant for the path, and the end of the path is lost. -/
example : ((readBase "http://relay/prefix?x=1".toList).toOption.bind fun u =>
    (Leg.poll.endpoint u).toOption).map (·.text) = some "http://relay/poll" := by
  decide +kernel

end Endpoint

end ScrapeCourier
