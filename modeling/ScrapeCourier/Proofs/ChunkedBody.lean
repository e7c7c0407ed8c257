import Mathlib.Data.Nat.Digits.Defs
import ScrapeCourier.Proofs.ChunkWords
import ScrapeCourier.Proofs.Framing
import ScrapeCourier.Proofs.MessageEnd

namespace ScrapeCourier.Http.Chunked

/-- A chunk as it is spelled: a size line, and the octets that a line end follows. -/
structure Chunk where
  line : Octets
  data : Octets

def Chunk.octets (c : Chunk) : Octets := c.line ++ (c.data ++ crlf)

/-- The size line gives the number of the octets, of which there are some. -/
structure Chunk.IsSized (c : Chunk) : Prop where
  size_line : size c.line = .done c.data.length []
  nonempty : c.data ≠ []

def sequence (cs : List Chunk) (last : Octets) : Octets := cs.flatMap Chunk.octets ++ last

/-- Every chunk has its size, and the last size line is that of nothing. -/
structure IsSequence (cs : List Chunk) (last : Octets) : Prop where
  sized : ∀ c ∈ cs, c.IsSized
  size_last : size last = .done 0 []

variable {cs : List Chunk} {last body s t : Octets}

theorem sequence_cons (c : Chunk) (cs : List Chunk) (last : Octets) :
    sequence (c :: cs) last = c.octets ++ sequence cs last := by
  rw [sequence, List.flatMap_cons, List.append_assoc]
  rfl

theorem Chunk.length_octets (c : Chunk) :
    c.octets.length = c.line.length + (c.data.length + 2) := by
  rw [octets, List.length_append, List.length_append]
  rfl

/-- A sequence that is counted in 64 bits has no size that is not. -/
theorem IsSequence.coded (h : IsSequence cs last) (hlt : (sequence cs last).length < countBound) :
    Coded (sequence cs last) (cs.flatMap (·.data)) := by
  induction cs with
  | nil => exact .last h.size_last
  | cons c cs ih =>
    obtain ⟨hline, hne⟩ := h.sized c List.mem_cons_self
    rw [sequence_cons, List.length_append, c.length_octets] at hlt
    have hmore := ih ⟨fun c hc => h.sized c (List.mem_cons_of_mem _ hc), h.size_last⟩ (by omega)
    rw [sequence_cons, List.flatMap_cons]
    exact .chunk hline hne (by omega) hmore

theorem Coded.exists_sequence {coded : Octets} (h : Coded coded body) :
    ∃ cs last, coded = sequence cs last ∧ IsSequence cs last ∧ body = cs.flatMap (·.data) := by
  induction h with
  | @last line h => exact ⟨[], line, rfl, ⟨fun c hc => absurd hc List.not_mem_nil, h⟩, rfl⟩
  | @chunk line data coded body hline hne _ _ ih =>
    obtain ⟨cs, last, rfl, hcs, rfl⟩ := ih
    have heq := (sequence_cons ⟨line, data⟩ cs last).symm
    refine ⟨⟨line, data⟩ :: cs, last, heq, ⟨?_, hcs.size_last⟩, rfl⟩
    intro c hc
    obtain rfl | hc := List.mem_cons.mp hc
    · exact ⟨hline, hne⟩
    · exact hcs.sized c hc

theorem read_eq_ok (h : Framing.chunked.read s = .ok body) : ∃ cs last t,
    s = sequence cs last ++ t ∧ IsSequence cs last ∧ body = cs.flatMap (·.data) := by
  have hframing : Framing.chunked ≠ .toEnd := nofun
  obtain ⟨coded, t, rfl, hspans⟩ := Framing.exists_spans hframing h
  cases hspans with
  | chunked hcoded =>
    obtain ⟨cs, last, rfl, hcs, hbody⟩ := hcoded.exists_sequence
    exact ⟨cs, last, t, rfl, hcs, hbody⟩

/-- A size in one to sixteen hexadecimal digits, behind which an extension may stand. -/
structure Spelling (n : Nat) where
  digits : Octets
  extension : Option Octets
  nonempty : digits ≠ []
  short : digits.length ≤ 16
  value : (digits.mapM Octet.hexValue?).map (Nat.ofDigits 16 ·.reverse) = some n
  plain : ∀ e ∈ extension, Octet.cr ∉ e

namespace Spelling

variable {n : Nat}

def line (p : Spelling n) : Octets :=
  p.digits ++ (p.extension.elim [] (59 :: ·) ++ crlf)

theorem sizeFrom_digits {ds : Octets} {vs : List Nat} {k m : Nat}
    (h : ds.mapM Octet.hexValue? = some vs) (hk : k + ds.length ≤ 16) (t : Octets) :
    sizeFrom (.digits k m) (ds ++ t) =
      sizeFrom (.digits (k + ds.length) (vs.foldl (· * 16 + ·) m)) t := by
  induction ds generalizing vs k m with
  | nil =>
    cases h
    rfl
  | cons b ds ih =>
    rw [List.mapM_cons] at h
    obtain ⟨v, hv, h⟩ := Option.bind_eq_some_iff.mp h
    obtain ⟨vs', hvs, h⟩ := Option.bind_eq_some_iff.mp h
    cases h
    rw [List.length_cons] at hk
    have hcr : b ≠ Octet.cr := by
      rintro rfl
      cases hv
    have hstep : (SizeLine.digits k m).step b = some (.digits (k + 1) (m * 16 + v)) := by
      simp only [SizeLine.step, hv]
      exact if_pos (by omega)
    rw [List.cons_append, sizeFrom_cons hcr hstep, ih hvs (by omega), List.length_cons,
      List.foldl_cons, Nat.add_assoc, Nat.add_comm 1]

theorem sizeFrom_extension {e : Octets} (he : Octet.cr ∉ e) (n : Nat) (t : Octets) :
    sizeFrom (.extension n) (e ++ t) = sizeFrom (.extension n) t := by
  induction e with
  | nil => rfl
  | cons b e ih =>
    rw [List.mem_cons, not_or] at he
    rw [List.cons_append, sizeFrom_cons (Ne.symm he.1) rfl, ih he.2]

theorem size_line (p : Spelling n) : size p.line = .done n [] := by
  obtain ⟨vs, hvs, hn⟩ := Option.map_eq_some_iff.mp p.value
  have hvalue : vs.foldl (· * 16 + ·) 0 = n := by
    rw [← hn, Nat.ofDigits_eq_foldr, List.foldr_reverse]
    congr
    funext m d
    rw [Nat.cast_id]
    omega
  rw [size, line, sizeFrom_digits hvs (by rw [Nat.zero_add]; exact p.short), hvalue]
  cases he : p.extension with
  | none => exact sizeFrom_crlf _ []
  | some e =>
    have hstep (k : Nat) : (SizeLine.digits k n).step 59 = some (.extension n) := rfl
    change sizeFrom _ (59 :: (e ++ crlf)) = _
    rw [sizeFrom_cons (by decide) (hstep _), sizeFrom_extension (p.plain e he)]
    exact sizeFrom_crlf _ []

end Spelling

structure SpelledChunk where
  data : Octets
  nonempty : data ≠ []
  size : Spelling data.length

def SpelledChunk.chunk (c : SpelledChunk) : Chunk := ⟨c.size.line, c.data⟩

theorem isSequence_spelled (cs : List SpelledChunk) (last : Spelling 0) :
    IsSequence (cs.map SpelledChunk.chunk) last.line where
  sized := by
    intro c hc
    obtain ⟨c, -, rfl⟩ := List.mem_map.mp hc
    exact ⟨c.size.size_line, c.nonempty⟩
  size_last := last.size_line

theorem IsSequence.takes (h : IsSequence cs last) (hs : s.length < UInt64.size)
    (he : s = sequence cs last ++ t) :
    Reader.Takes Chunked.body (sequence cs last) (cs.flatMap (·.data)) := by
  have hle : (sequence cs last).length ≤ s.length := by
    rw [he, List.length_append]
    exact Nat.le_add_right _ _
  exact (h.coded (Nat.lt_of_le_of_lt hle hs)).takes

theorem read_of_done (h : Chunked.body s = .done body t) : Framing.chunked.read s = .ok body := by
  simp only [Framing.read, h]

theorem read_of_incomplete (h : Chunked.body s = .incomplete) :
    Framing.chunked.read s = .error .incomplete := by
  simp only [Framing.read, h]

end ScrapeCourier.Http.Chunked

namespace ScrapeCourier.Http

open Chunked

/-- A body is read where a list of chunks stands, whatever the octets of the chunks look like, and
nowhere else. Octets in memory are counted in 64 bits. -/
theorem read_chunked (s : Octets) (hs : s.length < UInt64.size) :
    (∀ body, Framing.chunked.read s = .ok body ↔ ∃ cs last t,
      s = sequence cs last ++ t ∧ IsSequence cs last ∧ body = cs.flatMap (·.data)) ∧
    (∀ cs last t, s = sequence cs last ++ t → IsSequence cs last →
      ∀ p u, sequence cs last = p ++ u → u ≠ [] → Framing.chunked.read p = .error .incomplete) ∧
    (∀ e, Framing.chunked.read s = .error e → e = .incomplete ∨ e = .badChunk) ∧
    bodyInWords s = some (Chunked.body s) ∧
    ∀ (cs : List SpelledChunk) (last : Spelling 0) (t : Octets),
      s = sequence (cs.map SpelledChunk.chunk) last.line ++ t →
        Framing.chunked.read s = .ok (cs.flatMap (·.data)) := by
  have hread : ∀ cs last t, s = sequence cs last ++ t → IsSequence cs last →
      Framing.chunked.read s = .ok (cs.flatMap (·.data)) := by
    intro cs last t he hcs
    have hdone := (hcs.takes hs he).done t
    rw [← he] at hdone
    exact read_of_done hdone
  refine ⟨?_, ?_, ?_, bodyInWords_eq s, ?_⟩
  · intro body
    constructor
    · exact read_eq_ok
    · rintro ⟨cs, last, t, he, hcs, rfl⟩
      exact hread cs last t he hcs
  · intro cs last t he hcs p u hp hu
    exact read_of_incomplete ((hcs.takes hs he).short p u hp hu)
  · intro e he
    rw [Framing.read] at he
    split at he
    · cases he
    · cases he
      exact .inl rfl
    · cases he
      exact .inr rfl
  · intro cs last t he
    rw [hread _ _ t he (isSequence_spelled cs last), List.flatMap_map]
    rfl

namespace Chunked

def nested : List SpelledChunk :=
  [⟨Octets.ofAscii "0\r\n\r\n", by decide,
      ⟨Octets.ofAscii "005", some (Octets.ofAscii "0;"), by decide, by decide, rfl, by decide⟩⟩,
    ⟨Octets.ofAscii "1\r\nx\r\n0\r\n\r", by decide,
      ⟨Octets.ofAscii "A", none, by decide, by decide, rfl, by decide⟩⟩]

def nothing : Spelling 0 :=
  ⟨Octets.ofAscii "0000000000000000", some [], by decide, by decide, rfl, by decide⟩

def lookalike : Octets :=
  Octets.ofAscii "005;0;\r\n0\r\n\r\n\r\nA\r\n1\r\nx\r\n0\r\n\r\r\n" ++
    Octets.ofAscii "0000000000000000;\r\n1\r\n"

end Chunked

theorem read_chunked_lookalike :
    Framing.chunked.read lookalike = .ok (Octets.ofAscii "0\r\n\r\n1\r\nx\r\n0\r\n\r") ∧
      bodyInWords lookalike = some (Chunked.body lookalike) := by
  have hsound := read_chunked lookalike (by decide)
  exact ⟨hsound.2.2.2.2 nested nothing (Octets.ofAscii "1\r\n") rfl, hsound.2.2.2.1⟩

end ScrapeCourier.Http
