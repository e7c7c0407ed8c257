import Mathlib.Data.List.Nodup
import ScrapeCourier.Http.Fields

namespace ScrapeCourier.Http

theorem Field.filter_eq_nil {k : List Field} {n : FieldName} (hk : ∀ f ∈ k, f.name ≠ n) :
    k.filter (·.name = n) = [] := by
  apply List.filter_eq_nil_iff.mpr
  intro f hf
  rw [decide_eq_true_eq]
  exact hk f hf

namespace FieldGroup

theorem fields_eq_cons (g : FieldGroup) :
    g.fields = ⟨g.name, g.first⟩ :: g.more.map (⟨g.name, ·⟩) := rfl

@[simp] theorem map_value_fields (g : FieldGroup) : g.fields.map (·.value) = g.values := by
  rw [fields, List.map_map]
  exact List.map_id _

theorem name_of_mem_fields {g : FieldGroup} {f : Field} (h : f ∈ g.fields) : f.name = g.name := by
  obtain ⟨v, _, rfl⟩ := List.mem_map.mp h
  rfl

theorem filter_fields (g : FieldGroup) (p : FieldName → Bool) :
    g.fields.filter (p ·.name) = if p g.name then g.fields else [] := by
  by_cases hp : p g.name
  · rw [if_pos hp]
    apply List.filter_eq_self.mpr
    intro f hf
    rwa [name_of_mem_fields hf]
  · rw [if_neg hp]
    apply List.filter_eq_nil_iff.mpr
    intro f hf
    rwa [name_of_mem_fields hf]

end FieldGroup

namespace Fields

variable {h k : Fields} {n m : FieldName} {v : FieldValue}

theorem has_iff : h.has n = true ↔ n ∈ h.names := by
  simp [has, names]

theorem has_eq_false_iff : h.has n = false ↔ n ∉ h.names := by
  rw [← has_iff, Bool.not_eq_true]

theorem groups_upsert_of_has {old : FieldGroup → FieldGroup} {new : FieldGroup}
    {hold : ∀ g, (old g).name = g.name} {hnew : new.name = n} (hn : h.has n = true) :
    (h.upsert n old new hold hnew).groups =
      h.groups.map fun g => if g.name = n then old g else g := by
  simp only [upsert, dif_pos hn]

theorem groups_upsert_of_not_has {old : FieldGroup → FieldGroup} {new : FieldGroup}
    {hold : ∀ g, (old g).name = g.name} {hnew : new.name = n} (hn : h.has n = false) :
    (h.upsert n old new hold hnew).groups = h.groups ++ [new] := by
  simp only [upsert, hn, Bool.false_eq_true, dite_false]

theorem groups_append_of_not_has (hn : h.has n = false) :
    (h.append n v).groups = h.groups ++ [⟨n, v, []⟩] :=
  groups_upsert_of_not_has hn

theorem groups_append_last {gs : List FieldGroup} {w : FieldValue} {ws : List FieldValue}
    (hg : h.groups = gs ++ [⟨n, w, ws⟩]) :
    (h.append n v).groups = gs ++ [⟨n, w, ws ++ [v]⟩] := by
  have hn : h.has n = true := by simp [has, hg]
  have hd : n ∉ gs.map (·.name) := by
    have hnodup := h.nodup
    rw [hg, List.map_append, List.nodup_append] at hnodup
    intro hm
    exact hnodup.2.2 n hm n (by simp) rfl
  rw [append, groups_upsert_of_has hn, hg, List.map_append]
  congr 1
  · apply (List.map_congr_left _).trans (List.map_id _)
    intro g hm
    apply if_neg
    intro he
    exact hd (List.mem_map.mpr ⟨g, hm, he⟩)
  · simp

theorem groups_foldl_append_group (g : FieldGroup) (hn : h.has g.name = false) :
    (g.fields.foldl (fun h f => h.append f.name f.value) h).groups = h.groups ++ [g] := by
  have more (vs ws : List FieldValue) (h' : Fields)
      (hg : h'.groups = h.groups ++ [⟨g.name, g.first, ws⟩]) :
      ((vs.map fun v => (⟨g.name, v⟩ : Field)).foldl (fun h f => h.append f.name f.value) h').groups =
        h.groups ++ [⟨g.name, g.first, ws ++ vs⟩] := by
    induction vs generalizing ws h' with
    | nil => simpa using hg
    | cons v vs ih =>
      rw [List.map_cons, List.foldl_cons, ih (ws ++ [v]) _ (groups_append_last hg)]
      simp
  rw [FieldGroup.fields_eq_cons, List.foldl_cons]
  exact more g.more [] _ (groups_append_of_not_has hn)

theorem groups_foldl_append (gs : List FieldGroup) (hnodup : (h.groups ++ gs).map (·.name) |>.Nodup) :
    ((gs.flatMap FieldGroup.fields).foldl (fun h f => h.append f.name f.value) h).groups =
      h.groups ++ gs := by
  induction gs generalizing h with
  | nil => simp
  | cons g gs ih =>
    have hn : h.has g.name = false := by
      rw [has_eq_false_iff]
      rw [List.map_append, List.nodup_append] at hnodup
      intro hm
      exact hnodup.2.2 g.name hm g.name (by simp) rfl
    have hg := groups_foldl_append_group g hn
    rw [List.flatMap_cons, List.foldl_append, ih (by simpa [hg] using hnodup), hg]
    simp

@[simp] theorem ofList_toList (h : Fields) : ofList h.toList = h := by
  ext1
  rw [ofList, toList, groups_foldl_append]
  · rfl
  · simpa [empty] using h.nodup

theorem toList_append_of_not_has (hn : h.has n = false) :
    (h.append n v).toList = h.toList ++ [⟨n, v⟩] := by
  rw [toList, groups_append_of_not_has hn, List.flatMap_append]
  rfl

theorem mem_names_iff : n ∈ h.names ↔ ∃ f ∈ h.toList, f.name = n := by
  simp only [names, toList, List.mem_map, List.mem_flatMap]
  constructor
  · rintro ⟨g, hg, rfl⟩
    exact ⟨⟨g.name, g.first⟩, ⟨g, hg, by simp [FieldGroup.fields_eq_cons]⟩, rfl⟩
  · rintro ⟨f, ⟨g, hg, hf⟩, rfl⟩
    exact ⟨g, hg, (FieldGroup.name_of_mem_fields hf).symm⟩

theorem has_eq_any : h.has n = h.toList.any (·.name = n) := by
  rw [Bool.eq_iff_iff, has_iff, mem_names_iff]
  simp

theorem toList_filter (p : FieldName → Bool) : (h.filter p).toList = h.toList.filter (p ·.name) := by
  simp only [toList, filter]
  induction h.groups with
  | nil => rfl
  | cons g gs ih =>
    rw [List.flatMap_cons, List.filter_append, ← ih, g.filter_fields, List.filter_cons]
    by_cases hp : p g.name
    · rw [if_pos hp, if_pos hp, List.flatMap_cons]
    · rw [if_neg hp, if_neg hp, List.nil_append]

theorem values_eq (h : Fields) (n : FieldName) :
    h.values n = (h.toList.filter (·.name = n)).map (·.value) := by
  have key (gs : List FieldGroup) (hnodup : (gs.map (·.name)).Nodup) :
      ((gs.find? (·.name = n)).map FieldGroup.values).getD [] =
        ((gs.flatMap FieldGroup.fields).filter (·.name = n)).map (·.value) := by
    induction gs with
    | nil => rfl
    | cons g gs ih =>
      rw [List.map_cons, List.nodup_cons] at hnodup
      rw [List.flatMap_cons, List.filter_append, List.map_append, List.find?_cons,
        g.filter_fields (· = n)]
      by_cases hn : g.name = n
      · have hnone : (gs.flatMap FieldGroup.fields).filter (·.name = n) = [] := by
          apply Field.filter_eq_nil
          intro f hf e
          obtain ⟨g', hg', hf'⟩ := List.mem_flatMap.mp hf
          rw [FieldGroup.name_of_mem_fields hf', ← hn] at e
          exact hnodup.1 (List.mem_map.mpr ⟨g', hg', e⟩)
        simp [hn, hnone]
      · simpa [hn] using ih hnodup.2
  rw [toList, ← key h.groups h.nodup, values]
  cases h.groups.find? (·.name = n) with
  | none => rfl
  | some g => rfl

theorem first?_eq_none_iff : h.first? n = none ↔ h.has n = false := by
  rw [first?, values_eq, has_eq_any, List.head?_eq_none_iff, List.map_eq_nil_iff,
    List.filter_eq_nil_iff, List.any_eq_false]

theorem has_filter (p : FieldName → Bool) : (h.filter p).has n = (p n && h.has n) := by
  rw [Bool.eq_iff_iff, Bool.and_eq_true, has_iff, has_iff, mem_names_iff, mem_names_iff,
    toList_filter]
  grind

theorem values_filter (p : FieldName → Bool) :
    (h.filter p).values n = if p n then h.values n else [] := by
  rw [values_eq, values_eq, toList_filter, List.filter_filter]
  split
  next hp =>
    congr 1
    apply List.filter_congr
    intro f _
    by_cases hf : f.name = n
    · rw [hf, hp, Bool.and_true]
    · rw [decide_eq_false hf, Bool.false_and]
  next hp =>
    rw [List.filter_eq_nil_iff.mpr, List.map_nil]
    intro f _ hf
    rw [Bool.and_eq_true, decide_eq_true_eq] at hf
    exact hp (hf.1 ▸ hf.2)

/-- The order of the names does not matter to the values of one. -/
theorem values_of_perm (hp : h.groups.Perm k.groups) (n : FieldName) :
    h.values n = k.values n := by
  have hnone : h.groups.find? (·.name = n) = none ↔ k.groups.find? (·.name = n) = none := by
    simp only [List.find?_eq_none, hp.mem_iff]
  rw [values, values]
  cases hh : h.groups.find? (·.name = n) with
  | none => rw [hnone.mp hh]
  | some g =>
    cases hk : k.groups.find? (·.name = n) with
    | none => cases hh.symm.trans (hnone.mpr hk)
    | some g' =>
      have hname {ks : List FieldGroup} {e : FieldGroup} (he : ks.find? (·.name = n) = some e) :
          e.name = n := by simpa using List.find?_some he
      have hmem : g ∈ k.groups := hp.mem_iff.mp (List.mem_of_find?_eq_some hh)
      rw [List.inj_on_of_nodup_map k.nodup hmem (List.mem_of_find?_eq_some hk)
        ((hname hh).trans (hname hk).symm)]

theorem values_remove : (h.remove n).values m = if m = n then [] else h.values m := by
  rw [values_of_perm (k := h.filter (· ≠ n)) (removeGroup_perm h.nodup n), values_filter]
  by_cases hm : m = n
  · rw [if_neg (by simpa using hm), if_pos hm]
  · rw [if_pos (by simpa using hm), if_neg hm]

theorem values_removeAll (ns : List FieldName) :
    (h.removeAll ns).values m = if ns.contains m then [] else h.values m := by
  induction ns generalizing h with
  | nil => rfl
  | cons n ns ih =>
    rw [removeAll, List.foldl_cons, ← removeAll, ih, values_remove, List.contains_cons]
    by_cases hm : m = n
    · rw [if_pos hm, hm, BEq.rfl, Bool.true_or, if_pos rfl, ite_self]
    · rw [if_neg hm, beq_false_of_ne hm, Bool.false_or]

theorem find?_map_of_name {gs : List FieldGroup} {f : FieldGroup → FieldGroup}
    (hf : ∀ g, (f g).name = g.name) :
    (gs.map f).find? (·.name = n) = (gs.find? (·.name = n)).map f := by
  rw [List.find?_map]
  change (gs.find? fun g => (f g).name = n).map f = _
  simp only [hf]

theorem values_insert_self : (h.insert n v).values n = [v] := by
  unfold values insert
  cases hn : h.has n with
  | true =>
    obtain ⟨g, hg, hgn⟩ : ∃ g, h.groups.find? (·.name = n) = some g ∧ g.name = n := by
      obtain ⟨g', hg'⟩ := Option.isSome_iff_exists.mp
        (List.find?_isSome.mpr (List.any_eq_true.mp hn))
      exact ⟨g', hg', by simpa using List.find?_some hg'⟩
    rw [groups_upsert_of_has hn, find?_map_of_name fun g => by split <;> rfl, hg]
    simp [hgn, FieldGroup.values]
  | false =>
    have hnone : h.groups.find? (·.name = n) = none := by
      rw [List.find?_eq_none]
      intro g hg he
      exact has_eq_false_iff.mp hn (List.mem_map.mpr ⟨g, hg, by simpa using he⟩)
    rw [groups_upsert_of_not_has hn, List.find?_append, hnone]
    simp [FieldGroup.values]

theorem values_insert_of_ne (hne : m ≠ n) : (h.insert n v).values m = h.values m := by
  unfold values insert
  cases hn : h.has n with
  | true =>
    rw [groups_upsert_of_has hn, find?_map_of_name fun g => by split <;> rfl]
    cases hg : h.groups.find? (·.name = m) with
    | none => rfl
    | some g =>
      have hgm : g.name = m := by simpa using List.find?_some hg
      simp [hgm, hne]
  | false =>
    rw [groups_upsert_of_not_has hn, List.find?_append]
    cases h.groups.find? (·.name = m) <;> simp [Ne.symm hne]

theorem filter_insert {p : FieldName → Bool} (hp : ¬p n) :
    (h.insert n v).filter p = h.filter p := by
  ext1
  change (h.insert n v).groups.filter (p ·.name) = h.groups.filter (p ·.name)
  unfold insert
  cases hn : h.has n with
  | true =>
    rw [groups_upsert_of_has hn]
    induction h.groups with
    | nil => rfl
    | cons g gs ih =>
      rw [List.map_cons, List.filter_cons, List.filter_cons, ih]
      by_cases hg : g.name = n
      · have hpg : ¬p g.name := hg ▸ hp
        rw [if_pos hg, if_neg hpg, if_neg hpg]
      · rw [if_neg hg]
  | false =>
    rw [groups_upsert_of_not_has hn, List.filter_append]
    simp [hp]

theorem length_toList_insert_le : (h.insert n v).toList.length ≤ h.toList.length + 1 := by
  unfold insert
  cases hn : h.has n with
  | true =>
    rw [toList, groups_upsert_of_has hn, toList]
    apply Nat.le_succ_of_le
    induction h.groups with
    | nil => simp
    | cons g gs ih =>
      rw [List.map_cons, List.flatMap_cons, List.flatMap_cons, List.length_append,
        List.length_append]
      refine Nat.add_le_add ?_ ih
      split <;> simp [FieldGroup.fields, FieldGroup.values]
  | false =>
    rw [toList, groups_upsert_of_not_has hn, List.flatMap_append]
    simp [toList, FieldGroup.fields, FieldGroup.values]

end Fields

end ScrapeCourier.Http
