import ScrapeCourier.Text.Utf8

namespace ScrapeCourier.Http

def isToken (b : UInt8) : Bool :=
  Octet.isAlpha b || Octet.isDigit b || (Octets.ofAscii "!#$%&'*+-.^_`|~").contains b

def isFieldOctet (b : UInt8) : Bool := b == Octet.tab || (32 ≤ b && b != 127)

structure FieldName where
  octets : Octets
  nonempty : octets ≠ []
  short : octets.length ≤ 65535
  token : octets.all (fun b => isToken b && !Octet.isUpper b)
  deriving DecidableEq

structure FieldValue where
  octets : Octets
  valid : octets.all isFieldOctet
  secret : Bool := false
  deriving DecidableEq

namespace FieldName

def ofLower? (s : Octets) : Option FieldName :=
  if h : s ≠ [] ∧ s.length ≤ 65535 ∧ s.all (fun b => isToken b && !Octet.isUpper b) then
    some ⟨s, h.1, h.2.1, h.2.2⟩
  else none

def ofOctets? (s : Octets) : Option FieldName := ofLower? (s.map Octet.toLower)

def accept : FieldName := ⟨Octets.ofAscii "accept", by decide, by decide, by decide⟩
def authorization : FieldName :=
  ⟨Octets.ofAscii "authorization", by decide, by decide, by decide⟩
def connection : FieldName := ⟨Octets.ofAscii "connection", by decide, by decide, by decide⟩
def contentLength : FieldName :=
  ⟨Octets.ofAscii "content-length", by decide, by decide, by decide⟩
def host : FieldName := ⟨Octets.ofAscii "host", by decide, by decide, by decide⟩
def id : FieldName := ⟨Octets.ofAscii "id", by decide, by decide, by decide⟩
def keepAlive : FieldName := ⟨Octets.ofAscii "keep-alive", by decide, by decide, by decide⟩
def proxyAuthorization : FieldName :=
  ⟨Octets.ofAscii "proxy-authorization", by decide, by decide, by decide⟩
def proxyConnection : FieldName :=
  ⟨Octets.ofAscii "proxy-connection", by decide, by decide, by decide⟩
def te : FieldName := ⟨Octets.ofAscii "te", by decide, by decide, by decide⟩
def trailer : FieldName := ⟨Octets.ofAscii "trailer", by decide, by decide, by decide⟩
def transferEncoding : FieldName :=
  ⟨Octets.ofAscii "transfer-encoding", by decide, by decide, by decide⟩
def upgrade : FieldName := ⟨Octets.ofAscii "upgrade", by decide, by decide, by decide⟩

def capitalized (start : Bool) : Octets → Octets
  | [] => []
  | b :: s => (if start then Octet.toUpper b else b) :: capitalized (b == 45) s

def canonical (n : FieldName) : Octets := capitalized true n.octets

end FieldName

namespace FieldValue

def ofOctets? (s : Octets) : Option FieldValue :=
  if h : s.all isFieldOctet then some { octets := s, valid := h } else none

def empty : FieldValue := { octets := [], valid := rfl }

def text? (v : FieldValue) : Option (List Char) :=
  if v.octets.all Octet.isVisible then some v.octets.toChars else none

end FieldValue

structure Field where
  name : FieldName
  value : FieldValue
  deriving DecidableEq

/-- A name with its values, of which there is at least one. -/
structure FieldGroup where
  name : FieldName
  first : FieldValue
  more : List FieldValue
  deriving DecidableEq

namespace FieldGroup

def values (g : FieldGroup) : List FieldValue := g.first :: g.more

def fields (g : FieldGroup) : List Field := g.values.map (⟨g.name, ·⟩)

end FieldGroup

/-- Names stand in the order in which they first came, and all values of one name stand together. -/
structure Fields where
  groups : List FieldGroup
  nodup : (groups.map (·.name)).Nodup

namespace Fields

@[ext] theorem ext {h k : Fields} (e : h.groups = k.groups) : h = k := by
  cases h; cases k; cases e; rfl

def empty : Fields := ⟨[], .nil⟩

def names (h : Fields) : List FieldName := h.groups.map (·.name)

def toList (h : Fields) : List Field := h.groups.flatMap FieldGroup.fields

def values (h : Fields) (n : FieldName) : List FieldValue :=
  match h.groups.find? (·.name = n) with
  | some g => g.values
  | none => []

def first? (h : Fields) (n : FieldName) : Option FieldValue := (h.values n).head?

def has (h : Fields) (n : FieldName) : Bool := h.groups.any (·.name = n)

def upsert (h : Fields) (n : FieldName) (old : FieldGroup → FieldGroup) (new : FieldGroup)
    (hold : ∀ g, (old g).name = g.name) (hnew : new.name = n) : Fields :=
  if hn : h.has n then
    ⟨h.groups.map fun g => if g.name = n then old g else g, by
      have e : (fun g : FieldGroup => (if g.name = n then old g else g).name) = (·.name) := by
        funext g
        split <;> simp [hold]
      rw [List.map_map, Function.comp_def, e]
      exact h.nodup⟩
  else
    ⟨h.groups ++ [new], by
      rw [List.map_append, List.nodup_append]
      refine ⟨h.nodup, by simp, ?_⟩
      rintro a ha b hb rfl
      obtain ⟨g, hg, rfl⟩ := List.mem_map.mp ha
      simp only [List.map_cons, List.map_nil, List.mem_singleton] at hb
      exact hn (List.any_eq_true.mpr ⟨g, hg, by simp [hb, hnew]⟩)⟩

def append (h : Fields) (n : FieldName) (v : FieldValue) : Fields :=
  h.upsert n (fun g => { g with more := g.more ++ [v] }) ⟨n, v, []⟩ (fun _ => rfl) rfl

/-- Makes a value the only one of its name, at the place where the name stands. -/
def insert (h : Fields) (n : FieldName) (v : FieldValue) : Fields :=
  h.upsert n (fun g => { g with first := v, more := [] }) ⟨n, v, []⟩ (fun _ => rfl) rfl

def filter (p : FieldName → Bool) (h : Fields) : Fields :=
  ⟨h.groups.filter (p ·.name), h.nodup.sublist (List.filter_sublist.map _)⟩

/-- Without the group of a name. The last group takes its place. -/
def removeGroup (n : FieldName) : List FieldGroup → List FieldGroup
  | [] => []
  | g :: gs =>
    if g.name = n then
      match gs.getLast? with
      | some last => last :: gs.dropLast
      | none => []
    else g :: removeGroup n gs

theorem removeGroup_perm {gs : List FieldGroup} (h : (gs.map (·.name)).Nodup) (n : FieldName) :
    (removeGroup n gs).Perm (gs.filter (·.name ≠ n)) := by
  induction gs with
  | nil => exact .nil
  | cons g gs ih =>
    rw [List.map_cons, List.nodup_cons] at h
    rw [removeGroup]
    split
    next hg =>
      have hrest : gs.filter (·.name ≠ n) = gs := by
        apply List.filter_eq_self.mpr
        intro k hk
        rw [decide_eq_true_eq]
        intro he
        exact h.1 (List.mem_map.mpr ⟨k, hk, he.trans hg.symm⟩)
      rw [List.filter_cons_of_neg (by simpa using hg), hrest]
      split
      next last hlast =>
        obtain ⟨rest, rfl⟩ := List.getLast?_eq_some_iff.mp hlast
        rw [List.dropLast_concat]
        exact (List.perm_append_singleton last rest).symm
      next hnone => rw [List.getLast?_eq_none_iff.mp hnone]
    next hg =>
      rw [List.filter_cons_of_pos (by simpa using hg)]
      exact (ih h.2).cons g

def remove (h : Fields) (n : FieldName) : Fields :=
  ⟨removeGroup n h.groups,
    ((removeGroup_perm h.nodup n).map _).nodup_iff.mpr (h.filter (· ≠ n)).nodup⟩

def removeAll (h : Fields) (ns : List FieldName) : Fields := ns.foldl remove h

def ofList (fs : List Field) : Fields := fs.foldl (fun h f => h.append f.name f.value) empty

end Fields

end ScrapeCourier.Http
