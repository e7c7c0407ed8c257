import ScrapeCourier.Proofs.HostText
import ScrapeCourier.Proofs.NamedPort

namespace ScrapeCourier.Url

/-- A host that a text of some URL with this scheme has. -/
def Host.IsHost (scheme : List Char) (h : Host) : Prop := ∃ s, Parser.readHost scheme s = .ok h

namespace Host.IsHost

variable {scheme : List Char} {h : Host}

theorem given (hh : h.IsHost scheme) (hs : (kindOf scheme).isSpecial) : h.Given := by
  obtain ⟨s, hr⟩ := hh
  rw [Parser.readHost, if_pos hs] at hr
  exact given_of_read hr

theorem isLiteral (hh : h.IsHost scheme) (hs : ¬(kindOf scheme).isSpecial) : h.IsLiteral := by
  obtain ⟨s, hr⟩ := hh
  rw [Parser.readHost, if_neg hs] at hr
  exact isLiteral_of_readLiteral hr

theorem readHost_text (hh : h.IsHost scheme) : Parser.readHost scheme h.text = .ok h := by
  rw [Parser.readHost]
  split
  next hs => exact read_text_of_given (hh.given hs)
  next hs => exact readLiteral_text (hh.isLiteral hs)

theorem isClosed (hh : h.IsHost scheme) : IsClosed h.text := by
  by_cases hs : (kindOf scheme).isSpecial
  · exact isClosed_of_given (hh.given hs)
  · exact isClosed_of_isLiteral (hh.isLiteral hs)

theorem text_ne_nil (hh : h.IsHost scheme) (hs : (kindOf scheme).isSpecial) : h.text ≠ [] :=
  (hh.given hs).text_ne_nil

end Host.IsHost

namespace Parser

theorem isInner_userinfo (s : List Char) :
    ∀ c ∈ Percent.encode Percent.inUserinfo s, Host.isInner c := by
  apply Percent.forall_mem_encode
  · decide
  · intro c _ hlt he
    refine Host.isInner_iff.mpr ⟨Percent.lt_of_not_inUserinfo he, hlt, fun hm => ?_⟩
    have hsub : ∀ d ∈ "#/:?@[\\]|".toList, Percent.inUserinfo d := by decide
    rw [hsub c hm] at he
    cases he

def userinfo (name : List Char) : Option (List Char) → List Char
  | none => name
  | some word => name ++ ':' :: word

def IsUserinfo (name : List Char) (word : Option (List Char)) : Prop :=
  ∃ s, readUserinfo s = (name, word)

section

variable {name : List Char} {word : Option (List Char)} (h : IsUserinfo name word)
include h

theorem IsUserinfo.isInner : (∀ c ∈ name, Host.isInner c) ∧
    ∀ w, word = some w → w ≠ [] ∧ ∀ c ∈ w, Host.isInner c := by
  obtain ⟨s, hs⟩ := h
  cases hs
  refine ⟨isInner_userinfo _, fun w hw => ?_⟩
  split at hw
  · cases hw
  next hne =>
    cases hw
    exact ⟨Percent.encode_ne_nil (mt List.isEmpty_iff.mpr hne), isInner_userinfo _⟩

theorem IsUserinfo.encode_eq : Percent.encode Percent.inUserinfo name = name ∧
    ∀ w, word = some w → Percent.encode Percent.inUserinfo w = w := by
  obtain ⟨s, hs⟩ := h
  cases hs
  refine ⟨Percent.encode_encode (by decide), fun w hw => ?_⟩
  split at hw
  · cases hw
  · cases hw
    exact Percent.encode_encode (by decide)

theorem readUserinfo_userinfo : readUserinfo (userinfo name word) = (name, word) := by
  have hname : ∀ c ∈ name, (c ≠ ':' : Bool) := by
    intro c hc
    rw [decide_eq_true_eq]
    rintro rfl
    cases h.isInner.1 _ hc
  cases word with
  | none =>
    rw [userinfo, readUserinfo, List.takeWhile_eq_self_iff.mpr hname,
      List.dropWhile_eq_nil_iff.mpr hname, h.encode_eq.1]
    rfl
  | some w =>
    have hne := List.isEmpty_eq_false_iff.mpr (h.isInner.2 w rfl).1
    rw [userinfo, readUserinfo, List.takeWhile_append_of_pos hname,
      List.dropWhile_append_of_pos hname, List.takeWhile_cons_of_neg (by simp),
      List.dropWhile_cons_of_neg (by simp), List.append_nil, List.drop_one, List.tail_cons, hne,
      h.encode_eq.1, h.encode_eq.2 w rfl]
    rfl

theorem mem_userinfo {c : Char} (hc : c ∈ userinfo name word) : c = ':' ∨ Host.isInner c := by
  cases word with
  | none => exact .inr (h.isInner.1 c hc)
  | some w =>
    obtain hc | hc := List.mem_append.mp hc
    · exact .inr (h.isInner.1 c hc)
    · obtain hc | hc := List.mem_cons.mp hc
      · exact .inl hc
      · exact .inr ((h.isInner.2 w rfl).2 c hc)

end

theorem userinfoText_eq (u : Url) : u.userinfoText =
    if userinfo u.username u.password = [] then [] else userinfo u.username u.password ++ ['@'] := by
  rw [userinfoText]
  split
  next hn hw => rw [hn, hw, userinfo, if_pos rfl]
  next hn hw hne =>
    rw [hw, userinfo, if_neg]
    exact hne
  next hw => rw [hw, userinfo, if_neg (by simp)]

theorem range_of_readPort {scheme s unread : List Char} {p : Nat}
    (h : readPort scheme s = .ok (some p, unread)) : p < 65536 ∧ defaultPort? scheme ≠ some p := by
  simp only [readPort] at h
  split at h
  · cases h
  next hn =>
    simp only [Bool.or_eq_true, decide_eq_true_eq, not_or] at hn
    simp only [Except.ok.injEq, Prod.mk.injEq] at h
    obtain ⟨hp, -⟩ := h
    split at hp
    · cases hp
    next hd =>
      cases hp
      simp only [Bool.or_eq_true, decide_eq_true_eq, not_or] at hd
      exact ⟨by omega, hd.2⟩

theorem readPort_nil (scheme : List Char) : readPort scheme [] = .ok (none, []) := rfl

theorem readPort_text {scheme : List Char} {p : Nat} (hlt : p < 65536)
    (hd : defaultPort? scheme ≠ some p) : readPort scheme (Unsigned.text p) = .ok (some p, []) := by
  have hall := List.all_eq_true.mp (Unsigned.all_isDigit_text p)
  rw [readPort, List.takeWhile_eq_self_iff.mpr hall, List.dropWhile_eq_nil_iff.mpr hall,
    Unsigned.value_text]
  simp [Nat.not_le_of_lt hlt, Unsigned.text_ne_nil, hd]

theorem readAuthority_of_isAuthority {scheme s unread : List Char} {a : Authority}
    (h : IsAuthority scheme (s.takeWhile (inAuthority scheme)) a unread)
    (hu : userinfoOf (s.takeWhile (inAuthority scheme)) = [] →
      '@' ∉ s.takeWhile (inAuthority scheme)) :
    readAuthority scheme s = .ok (a, unread ++ s.dropWhile (inAuthority scheme)) := by
  unfold readAuthority
  extract_lets special inside text rest
  have hfirst : ¬((userinfoOf text).isEmpty && text.contains '@' && (serverOf text).isEmpty &&
      !rest.isEmpty) := by
    intro hc
    simp only [Bool.and_eq_true, List.isEmpty_iff] at hc
    exact hu hc.1.1.1 (List.contains_iff_mem.mp hc.1.1.2)
  have hnamed : ¬(special && (splitPort false (serverOf text)).1.isEmpty) := by
    rw [Bool.and_eq_true, List.isEmpty_iff]
    exact fun hc => h.named hc.1 hc.2
  have hhost : (if special then Host.read (splitPort false (serverOf text)).1
      else Host.readLiteral (splitPort false (serverOf text)).1) = .ok a.host := h.host
  have halone : ¬(decide (a.host = .empty) && !(a.username.isEmpty && a.password.isNone)) := by
    rw [Bool.and_eq_true, decide_eq_true_eq]
    intro hc
    obtain ⟨-, hname, hword⟩ := h.alone hc.1
    rw [hname, hword] at hc
    cases hc.2
  have huser : readUserinfo (userinfoOf text) = (a.username, a.password) := h.userinfo
  have hport : readPort scheme ((splitPort false (serverOf text)).2.drop 1) = .ok (a.port, unread) :=
    h.port
  simp only [serverOf, userinfoOf] at *
  rw [if_neg hfirst, huser]
  dsimp only
  rw [if_neg hnamed, ← apply_ite (· >>= _), hhost, ok_bind, if_neg, hport, ok_bind, if_neg halone]
  · rfl
  · rw [Bool.and_eq_true, decide_eq_true_eq, decide_eq_true_eq]
    exact fun hc => (h.alone hc.1).1 hc.2

/-- The parts of a URL at a server, as they are read. -/
structure IsServer (u : Url) (h : Host) : Prop where
  user : IsUserinfo u.username u.password
  host : h.IsHost u.scheme
  port : ∀ p, u.port = some p → p < 65536 ∧ defaultPort? u.scheme ≠ some p
  alone : h = .empty → u.username = [] ∧ u.password = none ∧ u.port = none

theorem isServer_of_readAuthority {scheme s out : List Char} {a : Authority} {u : Url}
    (h : readAuthority scheme s = .ok (a, out)) (hs : u.scheme = scheme)
    (hn : u.username = a.username) (hw : u.password = a.password) (hp : u.port = a.port) :
    IsServer u a.host := by
  obtain ⟨unread, hparts, -⟩ := of_readAuthority h
  constructor
  · rw [hn, hw]
    exact ⟨_, hparts.userinfo⟩
  · rw [hs]
    exact ⟨_, hparts.host⟩
  · intro p hport
    rw [hs]
    have hread := hparts.port
    rw [← hp, hport] at hread
    exact range_of_readPort hread
  · intro he
    obtain ⟨hcolon, hname, hword⟩ := hparts.alone he
    rw [hn, hw, hp]
    refine ⟨hname, hword, ?_⟩
    have hread := hparts.port
    obtain hnil | ⟨p, hp⟩ := splitPort_snd false (serverOf (s.takeWhile (inAuthority scheme)))
    · rw [hnil, List.drop_nil, readPort_nil] at hread
      exact (Prod.mk.inj (Except.ok.inj hread)).1.symm
    · rw [hp] at hcolon
      exact absurd rfl hcolon

def isAuthorityChar (c : Char) : Bool := Host.isServerChar c || c == '@'

theorem isAuthorityChar_of_isServerChar {c : Char} (h : Host.isServerChar c) : isAuthorityChar c := by
  rw [isAuthorityChar, h, Bool.true_or]

theorem inAuthority_of_isAuthorityChar {c : Char} (h : isAuthorityChar c) (scheme : List Char) :
    inAuthority scheme c = true := by
  have hne (d : Char) (hd : isAuthorityChar d = false) : (c == d) = false := by
    rw [beq_eq_false_iff_ne]
    rintro rfl
    rw [hd] at h
    cases h
  rw [inAuthority, isSlash, endsPath, hne '/' (by decide), hne '\\' (by decide),
    hne '?' (by decide), hne '#' (by decide), Bool.and_false]
  rfl

namespace IsServer

variable {u : Url} {h : Host} (hu : IsServer u h)
include hu

theorem splitPort_server : splitPort false (h.text ++ u.portText) = (h.text, u.portText) := by
  apply splitPort_of_isClosed hu.host.isClosed
  rw [portText]
  split
  · exact .inr rfl
  · exact .inl rfl

theorem readPort_portText : readPort u.scheme (u.portText.drop 1) = .ok (u.port, []) := by
  rw [portText]
  split
  next p hp =>
    obtain ⟨hlt, hd⟩ := hu.port p hp
    rw [hp]
    exact readPort_text hlt hd
  next hp =>
    rw [hp]
    exact readPort_nil u.scheme

theorem all_isServerChar : ∀ c ∈ h.text ++ u.portText, Host.isServerChar c := by
  intro c hc
  obtain hc | hc := List.mem_append.mp hc
  · exact hu.host.isClosed.all_isServerChar c hc
  · rw [portText] at hc
    split at hc
    · obtain rfl | hc := List.mem_cons.mp hc
      · rfl
      · have hd := List.all_eq_true.mp (Unsigned.all_isDigit_text _) c hc
        rw [Host.isServerChar, Host.isInner_of_isDigit hd, Bool.true_or]
    · cases hc

theorem not_mem_server : '@' ∉ h.text ++ u.portText := fun hc => by
  cases hu.all_isServerChar _ hc

theorem isAuthorityChar_text :
    ∀ c ∈ u.userinfoText ++ h.text ++ u.portText, isAuthorityChar c := by
  intro c hc
  rw [List.append_assoc] at hc
  obtain hc | hc := List.mem_append.mp hc
  · rw [userinfoText_eq] at hc
    split at hc
    · cases hc
    · obtain hc | hc := List.mem_append.mp hc
      · obtain rfl | hin := mem_userinfo hu.user hc
        · rfl
        · rw [isAuthorityChar, Host.isServerChar, hin, Bool.true_or, Bool.true_or]
      · rw [List.mem_singleton.mp hc]
        rfl
  · exact isAuthorityChar_of_isServerChar (hu.all_isServerChar c hc)

theorem split_text :
    userinfoOf (u.userinfoText ++ h.text ++ u.portText) = userinfo u.username u.password ∧
      serverOf (u.userinfoText ++ h.text ++ u.portText) = h.text ++ u.portText := by
  have hat := hu.not_mem_server
  rw [userinfoText_eq, List.append_assoc]
  split
  next he =>
    rw [List.nil_append, userinfoOf, serverOf, splitUserinfo,
      if_neg (mt List.contains_iff_mem.mp hat), he]
    exact ⟨rfl, rfl⟩
  · have hmem : ('@' : Char) ∈ userinfo u.username u.password ++ ['@'] ++ (h.text ++ u.portText) := by
      simp
    rw [userinfoOf, serverOf, splitUserinfo, if_pos (List.contains_iff_mem.mpr hmem)]
    rw [List.append_assoc, List.singleton_append]
    simp only [Cut.takeWhile_reverse _ hat, Cut.take_length_sub, Option.getD_some, and_self]

theorem isAuthority_text : IsAuthority u.scheme (u.userinfoText ++ h.text ++ u.portText)
    ⟨u.username, u.password, h, u.port⟩ [] := by
  obtain ⟨huser, hserver⟩ := hu.split_text
  constructor
  · rw [huser]
    exact readUserinfo_userinfo hu.user
  · rw [hserver, hu.splitPort_server]
    exact hu.host.readHost_text
  · intro hs
    rw [hserver, hu.splitPort_server]
    exact hu.host.text_ne_nil hs
  · rw [hserver, hu.splitPort_server]
    exact hu.readPort_portText
  · intro he
    obtain ⟨hname, hword, hport⟩ := hu.alone he
    rw [hserver, hu.splitPort_server, portText, hport]
    exact ⟨nofun, hname, hword⟩

theorem readAuthority_text {t : List Char}
    (ht : ∀ c, t.head? = some c → inAuthority u.scheme c = false) :
    readAuthority u.scheme (u.userinfoText ++ h.text ++ u.portText ++ t) =
      .ok (⟨u.username, u.password, h, u.port⟩, t) := by
  have hall : ∀ c ∈ u.userinfoText ++ h.text ++ u.portText, inAuthority u.scheme c := fun c hc =>
    inAuthority_of_isAuthorityChar (hu.isAuthorityChar_text c hc) u.scheme
  have hcut := Cut.span_append hall ht
  obtain ⟨huser, hserver⟩ := hu.split_text
  have hparts := hu.isAuthority_text
  rw [← hcut.1] at hparts
  have hread := readAuthority_of_isAuthority hparts fun he => by
    rw [hcut.1] at he ⊢
    rw [huser] at he
    rw [userinfoText_eq, if_pos he, List.nil_append]
    exact hu.not_mem_server
  rw [hread, hcut.2]
  rfl

end IsServer

end Parser

end ScrapeCourier.Url
