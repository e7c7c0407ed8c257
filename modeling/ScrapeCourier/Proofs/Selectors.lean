import ScrapeCourier.Proofs.BaseUrl
import ScrapeCourier.Proofs.FormRoundTrip

namespace ScrapeCourier

namespace Url

/-- Nothing in an encoded query would be escaped when the URL is read, or be taken for its start. -/
theorem Form.of_mem_encode {ps : List Form.Pair} {c : Char} (h : c ∈ Form.encode ps) :
    c.toNat < 0x7F ∧ Percent.inSpecialQuery c = false ∧ c ≠ '?' := by
  have key : ∀ n : Fin 256, ∀ c ∈ encodeOctet (UInt8.ofNat n), c.toNat < 0x7F ∧
      Percent.inSpecialQuery c = false ∧ c ≠ '?' := by
    decide +kernel
  have htext {s : List Char} {d : Char} (hd : d ∈ encodeText s) :
      d.toNat < 0x7F ∧ Percent.inSpecialQuery d = false ∧ d ≠ '?' := by
    obtain ⟨b, -, hb⟩ := List.mem_flatMap.mp hd
    rw [← UInt8.ofNat_toNat (x := b)] at hb
    exact key ⟨b.toNat, b.toNat_lt⟩ d hb
  obtain rfl | ⟨s, hs, hc⟩ := Cut.mem_intercalate h
  · decide
  · obtain ⟨p, -, rfl⟩ := List.mem_map.mp hs
    obtain hc | hc := List.mem_append.mp hc
    · exact htext hc
    · obtain rfl | hc := List.mem_cons.mp hc
      · decide
      · exact htext hc

namespace Parser

variable {base : Url} {ss : List (List Char)} {w : List Char}

theorem readQuery_encode (special : Bool) (ps : List Form.Pair) :
    readQuery special (Form.encode ps) = Form.encode ps := by
  apply Percent.encode_of_forall
  intro c hc
  obtain ⟨hlt, he, -⟩ := Form.of_mem_encode hc
  refine ⟨hlt, ?_⟩
  cases special with
  | true => exact he
  | false => exact (Bool.or_eq_false_iff.mp he).1

theorem isParsed_named (hbase : IsParsed base) (hk : base.kind ≠ .file)
    (hp : base.path = .segments ss) (hw : IsName w) (ps : List Form.Pair) :
    IsParsed { base with
      path := .segments (base.front ++ [w])
      query := some (Form.encode ps)
      fragment := none } := by
  have hfront : ∀ v ∈ base.front, v ∈ ss := by
    rw [front, if_neg hk, pathSegments, hp]
    exact fun v hv => List.dropLast_subset _ hv
  have hsegment {special : Bool} (hss : ∀ v ∈ ss, IsSegment special v) :
      ∀ v ∈ base.front ++ [w], IsSegment special v := by
    intro v hv
    obtain hv | hv := List.mem_append.mp hv
    · exact hss v (hfront v hv)
    · rw [List.mem_singleton.mp hv]
      exact isSegment_of_isName hw special
  have hne : base.front ++ [w] ≠ [] := List.append_ne_nil_of_right_ne_nil _ (List.cons_ne_nil w [])
  refine ⟨hbase.scheme, ⟨fun q hq => ?_, fun t ht => ?_⟩, ?_⟩
  · cases hq
    exact ⟨_, (readQuery_encode _ ps).symm⟩
  · cases ht
  · cases hbase.form with
    | server _ hh hq hs _ hss =>
      cases hq.symm.trans hp
      exact .server hk hh rfl ⟨hs.user, hs.host, hs.port, hs.alone⟩ (fun _ => hne) (hsegment hss)
    | rooted hother hb hq _ hss =>
      cases hq.symm.trans hp
      refine .rooted hother ?_ rfl hne (hsegment hss)
      rw [IsBare, hb]
    | whole _ _ hq => cases hq.symm.trans hp
    | file hf =>
      refine absurd ?_ hk
      rw [hf.eq]
      rfl

end Parser

theorem pairs_eq_of_chars {u v : Url} {ps qs : List Form.Pair}
    (hu : u.query = some (Form.encode ps) ∧ u.fragment = none)
    (hv : v.query = some (Form.encode qs) ∧ v.fragment = none) (h : u.chars = v.chars) :
    ps = qs := by
  have hchars {x : Url} {rs : List Form.Pair}
      (hx : x.query = some (Form.encode rs) ∧ x.fragment = none) :
      x.chars = x.scheme ++ ':' :: x.authorityText ++ x.path.text ++ '?' :: Form.encode rs := by
    simp only [chars, queryText, fragmentText, hx, List.append_nil]
  have hmark (rs : List Form.Pair) : '?' ∉ Form.encode rs := fun hm =>
    (Form.of_mem_encode hm).2.2 rfl
  have hback := Cut.takeWhile_reverse (u.scheme ++ ':' :: u.authorityText ++ u.path.text) (hmark ps)
  rw [← hchars hu, h, hchars hv, Cut.takeWhile_reverse _ (hmark qs)] at hback
  rw [← Form.decode_encode ps, ← hback, Form.decode_encode]

/-- At the same server, and with the same credentials. -/
structure IsAtServerOf (v base : Url) : Prop where
  scheme : v.scheme = base.scheme
  username : v.username = base.username
  password : v.password = base.password
  host : v.host = base.host
  port : v.port = base.port

end Url

namespace Federation

open Url Endpoint

variable {f g : Federation} {u v : Url}

def pairs (f : Federation) : List Form.Pair := f.selectors.map ("match[]".toList, ·)

theorem pairs_inj : f.pairs = g.pairs ↔ f.selectors = g.selectors :=
  List.map_inj_right fun _ _ h => (Prod.mk.inj h).2

theorem endpoint_eq_ok : f.endpoint = .ok u ↔ ∃ ss, f.base.path = .segments ss ∧ u =
    { f.base with
      path := .segments (f.base.front ++ ["federate".toList])
      query := some (Form.encode f.pairs)
      fragment := none } := by
  have h : f.endpoint = _ := (Leg.federate f.selectors).endpoint_eq f.base
  rw [h]
  cases f.base.path with
  | whole s => exact iff_of_false nofun nofun
  | segments ss =>
    constructor
    · rintro ⟨⟩
      exact ⟨ss, rfl, rfl⟩
    · rintro ⟨-, -, rfl⟩
      rfl

/-- The selectors, and nothing else, are in the query of the endpoint, one pair for each. -/
theorem endpoint_selects {w : Url} (h : f.base.join "federate".toList = .ok w) :
    ∃ u, f.endpoint = .ok u ∧
      u.queryPairs = f.selectors.map ("match[]".toList, ·) ∧
      u.IsAtServerOf f.base ∧ u.fragment = none ∧
      (∀ s, Url.parse s = .ok f.base → f.base.kind ≠ .file → Url.parse u.chars = .ok u) ∧
      ∀ (g : Federation) (v : Url), g.endpoint = .ok v → v.chars = u.chars →
        g.selectors = f.selectors := by
  have hname : IsName "federate".toList := (Leg.federate f.selectors).isName_name
  obtain ⟨ss, hp⟩ : f.base.IsHierarchical := by
    rw [join_eq hname] at h
    split at h
    next => cases h
    next hp => exact ⟨_, hp⟩
  have hu := endpoint_eq_ok.mpr ⟨ss, hp, rfl⟩
  refine ⟨_, hu, Form.decode_encode f.pairs, ⟨rfl, rfl, rfl, rfl, rfl⟩, rfl, ?_, ?_⟩
  · intro s hs hk
    have hparsed := Parser.isParsed_named (Parser.isParsed_of_parse hs) hk hp hname f.pairs
    exact Parser.parse_chars hparsed fun hf => absurd hf hk
  · intro g v hg hchars
    obtain ⟨-, -, rfl⟩ := endpoint_eq_ok.mp hg
    exact pairs_inj.mp (pairs_eq_of_chars ⟨rfl, rfl⟩ ⟨rfl, rfl⟩ hchars)

namespace EscapedExample

def serverText : List Char := "http://u:p@prometheus:9090/base/?x=1#y".toList

def server : Url where
  scheme := "http".toList
  username := "u".toList
  password := some "p".toList
  host := some (.domain "prometheus".toList)
  port := some 9090
  path := .segments ["base".toList, []]
  query := some "x=1".toList
  fragment := some "y".toList

/-- The first three would be other selectors, or more of them, if they were not escaped. -/
def federation : Federation where
  base := server
  selectors := ["a&match[]=b".toList, "c+d e".toList, "f;%26#g".toList, [], "é\n".toList, []]

def federated : Url where
  scheme := "http".toList
  username := "u".toList
  password := some "p".toList
  host := some (.domain "prometheus".toList)
  port := some 9090
  path := .segments ["base".toList, "federate".toList]
  query := some ("match%5B%5D=a%26match%5B%5D%3Db&match%5B%5D=c%2Bd+e&match%5B%5D=f%3B%2526%23g&" ++
    "match%5B%5D=&match%5B%5D=%C3%A9%0A&match%5B%5D=").toList

end EscapedExample

open EscapedExample in
theorem endpoint_selects_escaped :
    Url.parse serverText = .ok server ∧
      server.join "federate".toList = .ok { federated with query := none } ∧
      federation.endpoint = .ok federated ∧ Url.parse federated.chars = .ok federated ∧
      federated.queryPairs = [("match[]".toList, "a&match[]=b".toList),
        ("match[]".toList, "c+d e".toList), ("match[]".toList, "f;%26#g".toList),
        ("match[]".toList, []), ("match[]".toList, "é\n".toList), ("match[]".toList, [])] := by
  have hparse : Url.parse serverText = .ok server := eq_ok_of_toOption (by decide +kernel)
  have hjoin : server.join "federate".toList = .ok { federated with query := none } :=
    eq_ok_of_toOption (by decide +kernel)
  have hendpoint : federation.endpoint = .ok federated := eq_ok_of_toOption (by decide +kernel)
  obtain ⟨u, hu, hpairs, -, -, hread, -⟩ := endpoint_selects (f := federation) hjoin
  cases hendpoint.symm.trans hu
  exact ⟨hparse, hjoin, hendpoint, hread serverText hparse (by decide), hpairs⟩

end Federation

end ScrapeCourier
