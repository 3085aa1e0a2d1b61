import Mathlib.Logic.Basic
import ShaderWeave.Proofs.Binding.Covering
import ShaderWeave.Proofs.List.FirstOccurrences
import ShaderWeave.Proofs.Shader.Collecting

/-!
# What the bindings hold

A requirement for a new name adds a binding. One for a name that is bound already widens the visibility
of its binding and changes nothing else. So the first requirement for a name says what its binding is,
and the stages of all requirements for the name see it.
-/

namespace ShaderWeave.Bindings

open FirstOccurrences Wgsl

variable {b b' : Bindings} {f : Feature} {q : Requirement} {features : List Feature}
  {done rest : List (Feature × Requirement)} {bs bs' : List Binding} {t : Binding} {group : Group} {name : String}

/-! ## One requirement -/

/-- What a requirement that fits does to the bindings. -/
inductive Adds (b : Bindings) (f : Feature) (q : Requirement) : Bindings → Prop
  | baseField (group : q.group = .perObject) (known : (Uniforms.baseFields.lookup q.name).isSome) :
      Adds b f q b
  | knownField (group : q.group = .perObject) (known : ∃ u ∈ b.uniforms, u.name = q.name) :
      Adds b f q b
  | newField {type : Numeric} (group : q.group = .perObject)
      (kind : q.kind = .uniform (.numeric type)) (base : Uniforms.baseFields.lookup q.name = none)
      (new : ∀ u ∈ b.uniforms, u.name ≠ q.name) :
      Adds b f q { b with uniforms := b.uniforms ++ [⟨q.name, type, q.provider, f.id⟩] }
  | knownTexture (group : q.group = .textures) (known : ∃ t ∈ b.textures, t.name = q.name) :
      Adds b f q { b with textures := widen q.name f.stage b.textures }
  | newTexture (group : q.group = .textures) (new : ∀ t ∈ b.textures, t.name ≠ q.name) :
      Adds b f q { b with textures := b.textures ++ [.ofRequirement f q b.textures.length] }
  | knownSlot (group : q.group = .environment) (known : ∃ t ∈ b.environment, t.name = q.name) :
      Adds b f q { b with environment := widen q.name f.stage b.environment }
  | newSlot {slot : Slot} (group : q.group = .environment) (found : Slot.find? q.name = some slot)
      (kind : slot.kind = q.kind) (new : ∀ t ∈ b.environment, t.name ≠ q.name) :
      Adds b f q
        { b with environment := insertByIndex (.ofRequirement f q slot.index) b.environment }

theorem eq_of_checkKind {owner : String} {kind : Kind} {α : Type} {x y : α}
    (h : (checkKind f q owner kind).map (fun _ => x) = .ok y) : y = x := by
  unfold checkKind at h
  split at h
  · simpa [Except.map] using h.symm
  · simp [Except.map] at h

theorem adds_of_addUniform (hg : q.group = .perObject) (h : b.addUniform f q = .ok b') :
    b.Adds f q b' := by
  unfold addUniform at h
  split at h
  · next type hkind =>
    cases hbase : Uniforms.baseFields.lookup q.name with
    | some base =>
      simp only [hbase] at h
      obtain rfl := eq_of_checkKind h
      exact .baseField hg (by rw [hbase]; rfl)
    | none =>
      simp only [hbase] at h
      cases hfind : b.uniforms.find? (·.name == q.name) with
      | some u =>
        simp only [hfind] at h
        obtain rfl := eq_of_checkKind h
        exact .knownField hg ⟨u, List.mem_of_find?_eq_some hfind, by simpa using List.find?_some hfind⟩
      | none =>
        simp only [hfind, Except.ok.injEq] at h
        subst h
        exact .newField hg hkind hbase (by simpa using hfind)
  · simp at h

theorem adds_of_addTexture (hg : q.group = .textures) (h : b.addTexture f q = .ok b') :
    b.Adds f q b' := by
  unfold addTexture at h
  split at h
  · simp at h
  · cases hfind : b.textures.find? (·.name == q.name) with
    | some t =>
      simp only [hfind] at h
      obtain rfl := eq_of_checkKind h
      exact .knownTexture hg ⟨t, List.mem_of_find?_eq_some hfind, by simpa using List.find?_some hfind⟩
    | none =>
      simp only [hfind, Except.ok.injEq] at h
      subst h
      exact .newTexture hg (by simpa using hfind)

theorem adds_of_addEnvironment (hg : q.group = .environment) (h : b.addEnvironment f q = .ok b') :
    b.Adds f q b' := by
  unfold addEnvironment at h
  split at h
  · simp at h
  · next slot hslot =>
    split at h
    · next hkind =>
      split at h
      · next hknown =>
        simp only [Except.ok.injEq] at h
        subst h
        exact .knownSlot hg (by simpa using hknown)
      · next hnew =>
        simp only [Except.ok.injEq] at h
        subst h
        exact .newSlot hg hslot hkind (by simpa using hnew)
    · simp at h

theorem adds_of_add (h : b.add f q = .ok b') : b.Adds f q b' := by
  unfold add at h
  split at h
  · next hg => exact adds_of_addUniform hg h
  · next hg => exact adds_of_addTexture hg h
  · next hg => exact adds_of_addEnvironment hg h

theorem Adds.uniforms_cases (h : b.Adds f q b') :
    (q.group ≠ .perObject ∧ b'.uniforms = b.uniforms) ∨
    (q.group = .perObject ∧
      ((Uniforms.baseFields.lookup q.name).isSome ∨ ∃ u ∈ b.uniforms, u.name = q.name) ∧
      b'.uniforms = b.uniforms) ∨
    ∃ type, q.group = .perObject ∧ q.kind = .uniform (.numeric type) ∧
      Uniforms.baseFields.lookup q.name = none ∧ (∀ u ∈ b.uniforms, u.name ≠ q.name) ∧
      b'.uniforms = b.uniforms ++ [⟨q.name, type, q.provider, f.id⟩] := by
  cases h with
  | baseField group known => exact .inr (.inl ⟨group, .inl known, rfl⟩)
  | knownField group known => exact .inr (.inl ⟨group, .inr known, rfl⟩)
  | newField group kind base new => exact .inr (.inr ⟨_, group, kind, base, new, rfl⟩)
  | _ => exact .inl ⟨by simp [*], rfl⟩

theorem Adds.textures_cases (h : b.Adds f q b') :
    (q.group ≠ .textures ∧ b'.textures = b.textures) ∨
    (q.group = .textures ∧ (∃ t ∈ b.textures, t.name = q.name) ∧
      b'.textures = widen q.name f.stage b.textures) ∨
    (q.group = .textures ∧ (∀ t ∈ b.textures, t.name ≠ q.name) ∧
      b'.textures = b.textures ++ [.ofRequirement f q b.textures.length]) := by
  cases h with
  | knownTexture group known => exact .inr (.inl ⟨group, known, rfl⟩)
  | newTexture group new => exact .inr (.inr ⟨group, new, rfl⟩)
  | _ => exact .inl ⟨by simp [*], rfl⟩

theorem Adds.environment_cases (h : b.Adds f q b') :
    (q.group ≠ .environment ∧ b'.environment = b.environment) ∨
    (q.group = .environment ∧ (∃ t ∈ b.environment, t.name = q.name) ∧
      b'.environment = widen q.name f.stage b.environment) ∨
    ∃ slot, q.group = .environment ∧ Slot.find? q.name = some slot ∧ slot.kind = q.kind ∧
      (∀ t ∈ b.environment, t.name ≠ q.name) ∧
      b'.environment = insertByIndex (.ofRequirement f q slot.index) b.environment := by
  cases h with
  | knownSlot group known => exact .inr (.inl ⟨group, known, rfl⟩)
  | newSlot group found kind new => exact .inr (.inr ⟨_, group, found, kind, new, rfl⟩)
  | _ => exact .inl ⟨by simp [*], rfl⟩

/-! ## All requirements -/

theorem addAll_induction {P : List (Feature × Requirement) → Bindings → Prop}
    (done : List (Feature × Requirement))
    (step : ∀ done b f q b', P done b → b.Adds f q b' → P (done ++ [(f, q)]) b')
    (h : P done b) (hall : b.addAll rest = .ok b') : P (done ++ rest) b' := by
  -- Each step moves one requirement from `rest` to the end of `done`.
  induction rest generalizing done b with
  | nil =>
    obtain rfl : b = b' := by simpa [addAll] using hall
    simpa using h
  | cons p rest ih =>
    obtain ⟨f, q⟩ := p
    rw [addAll] at hall
    split at hall
    · simp at hall
    · next b'' hadd =>
      simpa using ih _ (step done b f q b'' h (adds_of_add hadd)) hall

/-! ## One group -/

/-- The first requirement for a name in a group, with its feature. -/
def firstFor? (reqs : List (Feature × Requirement)) (group : Group) (name : String) :
    Option (Feature × Requirement) :=
  reqs.find? fun p => p.2.group = group ∧ p.2.name = name

theorem firstFor?_concat : firstFor? (done ++ [(f, q)]) group name =
    (firstFor? done group name).or (if q.group = group ∧ q.name = name then some (f, q) else none) := by
  simp only [firstFor?, List.find?_append, List.find?_singleton]
  congr 1
  simp

theorem firstFor?_mem {p : Feature × Requirement} (h : firstFor? done group name = some p) :
    p ∈ done ∧ p.2.group = group ∧ p.2.name = name :=
  ⟨List.mem_of_find?_eq_some h, by simpa using List.find?_some h⟩

/-- The bindings of a group: one for each name that is required there. The first requirement for
the name says what it is, and the stages of all requirements for the name see it. -/
structure Gathers (group : Group) (reqs : List (Feature × Requirement)) (bs : List Binding) : Prop where
  names_nodup : (bs.map Binding.name).Nodup
  declared : ∀ p ∈ reqs, p.2.group = group → ∃ b ∈ bs, b.name = p.2.name
  first : ∀ b ∈ bs, ∃ p, firstFor? reqs group b.name = some p ∧
    b.kind = p.2.kind ∧ b.provider = p.2.provider ∧ b.feature = p.1.id
  visibility : ∀ b ∈ bs, ∀ stage, b.visibility.Within stage ↔
    ∀ p ∈ reqs, p.2.group = group → p.2.name = b.name → p.1.stage.Within stage

def widened (name : String) (stage : Stage) (t : Binding) : Binding :=
  if t.name = name then { t with visibility := t.visibility.union stage } else t

@[simp]
theorem widened_name (name : String) (stage : Stage) (t : Binding) :
    (widened name stage t).name = t.name := by
  unfold widened
  split <;> rfl

theorem widened_keeps (name : String) (stage : Stage) (t : Binding) :
    (widened name stage t).index = t.index ∧ (widened name stage t).kind = t.kind ∧
      (widened name stage t).provider = t.provider ∧ (widened name stage t).feature = t.feature := by
  unfold widened
  split <;> exact ⟨rfl, rfl, rfl, rfl⟩

theorem widen_eq_map (h : (bs.map Binding.name).Nodup) (name : String) (stage : Stage) :
    widen name stage bs = bs.map (widened name stage) := by
  induction bs with
  | nil => rfl
  | cons t bs ih =>
    simp only [List.map_cons, List.nodup_cons] at h
    rw [widen, List.map_cons]
    split
    · next hname =>
      -- Names are distinct, so no binding of the rest has this one.
      have hrest : bs.map (widened name stage) = bs := by
        refine (List.map_congr_left ?_).trans (List.map_id bs)
        intro t' ht'
        refine if_neg fun hname' => h.1 ?_
        rw [hname, ← hname']
        exact List.mem_map_of_mem ht'
      rw [hrest, widened, if_pos hname]
    · next hname => rw [ih h.2, widened, if_neg hname]

theorem map_widen {α : Type} (g : Binding → α) {name : String} {stage : Stage}
    (hg : ∀ t, g (widened name stage t) = g t) (h : (bs.map Binding.name).Nodup) :
    (widen name stage bs).map g = bs.map g := by
  rw [widen_eq_map h, List.map_map]
  exact List.map_congr_left fun t _ => hg t

namespace Gathers

theorem empty (group : Group) : Gathers group [] [] := by constructor <;> simp

theorem other (h : Gathers group done bs) (hne : q.group ≠ group) :
    Gathers group (done ++ [(f, q)]) bs where
  names_nodup := h.names_nodup
  declared := by
    intro p hp hgroup
    rcases List.mem_append.mp hp with hp | hp
    · exact h.declared p hp hgroup
    · rw [List.mem_singleton.mp hp] at hgroup
      exact absurd hgroup hne
  first := by
    intro t ht
    obtain ⟨p, hp, hkeeps⟩ := h.first t ht
    exact ⟨p, by rw [firstFor?_concat, hp, Option.some_or], hkeeps⟩
  visibility := by
    intro t ht stage
    simp [h.visibility t ht stage, hne, or_imp, forall_and]

theorem widen (h : Gathers group done bs) (hgroup : q.group = group)
    (known : ∃ t ∈ bs, t.name = q.name) :
    Gathers group (done ++ [(f, q)]) (widen q.name f.stage bs) where
  names_nodup := by
    rw [map_widen _ (widened_name _ _) h.names_nodup]
    exact h.names_nodup
  declared := by
    intro p hp hpgroup
    obtain ⟨t, ht, hname⟩ : ∃ t ∈ bs, t.name = p.2.name := by
      rcases List.mem_append.mp hp with hp | hp
      · exact h.declared p hp hpgroup
      · rw [List.mem_singleton.mp hp]
        exact known
    rw [widen_eq_map h.names_nodup]
    exact ⟨_, List.mem_map_of_mem ht, by rw [widened_name, hname]⟩
  first := by
    rw [widen_eq_map h.names_nodup, List.forall_mem_map]
    intro t ht
    obtain ⟨p, hp, hkind, hprovider, hfeature⟩ := h.first t ht
    obtain ⟨-, hkind', hprovider', hfeature'⟩ := widened_keeps q.name f.stage t
    rw [widened_name, firstFor?_concat, hp, hkind', hprovider', hfeature']
    exact ⟨p, rfl, hkind, hprovider, hfeature⟩
  visibility := by
    rw [widen_eq_map h.names_nodup, List.forall_mem_map]
    intro t ht stage
    rw [widened_name]
    unfold widened
    split
    · next hname =>
      rw [Stage.union_within_iff, h.visibility t ht stage]
      simp [hgroup, hname, or_imp, forall_and]
    · next hname =>
      rw [h.visibility t ht stage]
      simp [Ne.symm hname, or_imp, forall_and]

theorem name_ne_of_new (h : Gathers group done bs) (new : ∀ t ∈ bs, t.name ≠ name) :
    ∀ p ∈ done, p.2.group = group → p.2.name ≠ name := by
  intro p hp hpgroup hpname
  obtain ⟨t, ht, hname⟩ := h.declared p hp hpgroup
  exact new t ht (hname.trans hpname)

theorem insert {i : Nat} (h : Gathers group done bs) (hgroup : q.group = group)
    (new : ∀ t ∈ bs, t.name ≠ q.name) (hbs : bs'.Perm (.ofRequirement f q i :: bs)) :
    Gathers group (done ++ [(f, q)]) bs' where
  names_nodup := by
    rw [(hbs.map _).nodup_iff, List.map_cons, List.nodup_cons]
    refine ⟨?_, h.names_nodup⟩
    intro hmem
    obtain ⟨t, ht, hname⟩ := List.mem_map.mp hmem
    exact new t ht hname
  declared := by
    intro p hp hpgroup
    rcases List.mem_append.mp hp with hp | hp
    · obtain ⟨t, ht, hname⟩ := h.declared p hp hpgroup
      exact ⟨t, hbs.mem_iff.mpr (List.mem_cons_of_mem _ ht), hname⟩
    · rw [List.mem_singleton.mp hp]
      exact ⟨_, hbs.mem_iff.mpr List.mem_cons_self, rfl⟩
  first := by
    intro t ht
    rcases List.mem_cons.mp (hbs.mem_iff.mp ht) with rfl | ht
    · have hnone : firstFor? done group q.name = none := by
        rw [firstFor?, List.find?_eq_none]
        simpa using h.name_ne_of_new new
      refine ⟨(f, q), ?_, rfl, rfl, rfl⟩
      simp [firstFor?_concat, Binding.ofRequirement, hnone, hgroup]
    · obtain ⟨p, hp, hkeeps⟩ := h.first t ht
      exact ⟨p, by rw [firstFor?_concat, hp, Option.some_or], hkeeps⟩
  visibility := by
    intro t ht stage
    rcases List.mem_cons.mp (hbs.mem_iff.mp ht) with rfl | ht
    · simp only [Binding.ofRequirement, List.mem_append, List.mem_singleton, or_imp, forall_and,
        forall_eq, hgroup, forall_const]
      refine ⟨fun hstage => ⟨fun p hp hpgroup hpname => ?_, hstage⟩, And.right⟩
      exact absurd hpname (h.name_ne_of_new new p hp hpgroup)
    · rw [h.visibility t ht stage]
      simp [Ne.symm (new t ht), or_imp, forall_and]

end Gathers

theorem insertByIndex_perm (t : Binding) (bs : List Binding) : (insertByIndex t bs).Perm (t :: bs) := by
  induction bs with
  | nil => exact .refl _
  | cons x bs ih =>
    rw [insertByIndex]
    split
    · exact .refl _
    · exact (ih.cons x).trans (.swap t x bs)

/-! ## The bindings of a shader -/

def requiredNames (group : Group) (reqs : List (Feature × Requirement)) : List String :=
  (reqs.filter fun p => p.2.group = group).map fun p => p.2.name

/-- The bindings have all that the requirements ask for. -/
structure Gathered (reqs : List (Feature × Requirement)) (b : Bindings) : Prop where
  textures : Gathers .textures reqs b.textures
  environment : Gathers .environment reqs b.environment
  indices : b.textures.map Binding.index = List.range b.textures.length
  names : b.textures.map Binding.name = (requiredNames .textures reqs).eraseDups
  slots : ∀ t ∈ b.environment,
    ∃ s ∈ Slot.table, s.name = t.name ∧ s.index = t.index ∧ s.kind = t.kind

theorem gathered_empty : Gathered [] {} where
  textures := .empty _
  environment := .empty _
  indices := rfl
  names := rfl
  slots := by simp

theorem requiredNames_concat (h : q.group = group) : requiredNames group (done ++ [(f, q)]) =
    requiredNames group done ++ [q.name] := by
  simp [requiredNames, h]

theorem requiredNames_concat_of_ne (h : q.group ≠ group) :
    requiredNames group (done ++ [(f, q)]) = requiredNames group done := by
  simp [requiredNames, h]

theorem Gathered.concat (h : Gathered done b) (hadd : b.Adds f q b') :
    Gathered (done ++ [(f, q)]) b' where
  textures := by
    obtain ⟨hother, ht⟩ | ⟨hg, known, ht⟩ | ⟨hg, new, ht⟩ := hadd.textures_cases
    · exact ht ▸ h.textures.other hother
    · exact ht ▸ h.textures.widen hg known
    · exact ht ▸ h.textures.insert hg new (List.perm_append_singleton _ _)
  environment := by
    obtain ⟨hother, ht⟩ | ⟨hg, known, ht⟩ | ⟨slot, hg, -, -, new, ht⟩ := hadd.environment_cases
    · exact ht ▸ h.environment.other hother
    · exact ht ▸ h.environment.widen hg known
    · exact ht ▸ h.environment.insert hg new (insertByIndex_perm _ _)
  indices := by
    obtain ⟨-, ht⟩ | ⟨-, -, ht⟩ | ⟨-, -, ht⟩ := hadd.textures_cases
    · rw [ht]
      exact h.indices
    · have hlength : (Bindings.widen q.name f.stage b.textures).length = b.textures.length := by
        simp [widen_eq_map h.textures.names_nodup]
      rw [ht, map_widen _ (fun t => (widened_keeps _ _ t).1) h.textures.names_nodup, hlength]
      exact h.indices
    · rw [ht, List.map_append, h.indices, List.length_append]
      exact List.range_succ.symm
  names := by
    obtain ⟨hother, ht⟩ | ⟨hg, ⟨t, htb, hname⟩, ht⟩ | ⟨hg, new, ht⟩ := hadd.textures_cases
    · rw [ht, requiredNames_concat_of_ne hother]
      exact h.names
    · have hknown : q.name ∈ requiredNames .textures done := by
        rw [← List.mem_eraseDups, ← h.names, ← hname]
        exact List.mem_map_of_mem htb
      rw [ht, map_widen _ (widened_name _ _) h.textures.names_nodup, requiredNames_concat hg,
        eraseDups_concat, if_pos hknown, List.append_nil]
      exact h.names
    · have hnew : q.name ∉ requiredNames .textures done := by
        rw [← List.mem_eraseDups, ← h.names]
        simpa using new
      rw [ht, List.map_append, requiredNames_concat hg, eraseDups_concat, if_neg hnew, h.names]
      rfl
  slots := by
    obtain ⟨-, ht⟩ | ⟨-, -, ht⟩ | ⟨slot, -, found, kind, -, ht⟩ := hadd.environment_cases
    · rw [ht]
      exact h.slots
    · rw [ht, widen_eq_map h.environment.names_nodup, List.forall_mem_map]
      intro t ht
      obtain ⟨hindex, hkind, -, -⟩ := widened_keeps q.name f.stage t
      rw [widened_name, hindex, hkind]
      exact h.slots t ht
    · intro t htb
      rw [ht] at htb
      rcases List.mem_cons.mp ((insertByIndex_perm _ _).mem_iff.mp htb) with rfl | htb
      · exact ⟨slot, Slot.mem_table_of_find? found, Slot.name_of_find? found, rfl, kind⟩
      · exact h.slots t htb

theorem gathered_of_collect (h : collect features = .ok b) : Gathered (requirements features) b := by
  have hgathered := addAll_induction (P := Gathered) []
    (fun done b f q b' hdone hadd => hdone.concat hadd) gathered_empty h
  rwa [List.nil_append] at hgathered

theorem index_eq_of_getElem? (h : bs.map Binding.index = List.range bs.length) {i : Nat}
    (ht : bs[i]? = some t) : t.index = i := by
  have hindex : (bs.map Binding.index)[i]? = some t.index := by rw [List.getElem?_map, ht]; rfl
  rw [h, List.getElem?_eq_some_iff] at hindex
  obtain ⟨hi, hindex⟩ := hindex
  rw [← hindex, List.getElem_range]

/-! ## What a binding says of the features -/

/-- The feature declares a resource of the name in the group. -/
def Requires (f : Feature) (group : Group) (name : String) : Prop :=
  ∃ q ∈ f.resources, q.group = group ∧ q.name = name

theorem exists_requirement_iff {P : Feature → Prop} :
    (∃ p ∈ requirements features, p.2.group = group ∧ p.2.name = name ∧ P p.1) ↔
      ∃ f ∈ features, Requires f group name ∧ P f := by
  constructor
  · rintro ⟨p, hp, hgroup, hname, hP⟩
    obtain ⟨f, hf, hfp⟩ := List.mem_flatMap.mp hp
    obtain ⟨q, hq, rfl⟩ := List.mem_map.mp hfp
    exact ⟨f, hf, ⟨q, hq, hgroup, hname⟩, hP⟩
  · rintro ⟨f, hf, ⟨q, hq, hgroup, hname⟩, hP⟩
    exact ⟨(f, q), List.mem_flatMap.mpr ⟨f, hf, List.mem_map_of_mem hq⟩, hgroup, hname, hP⟩

/-- The features declare the binding: what it is comes from their first declaration of its name in
the group, and it is visible in the stages of all of them that declare the name there. -/
structure DeclaredBy (features : List Feature) (group : Group) (t : Binding) : Prop where
  first : ∃ p, firstFor? (requirements features) group t.name = some p ∧
    t.kind = p.2.kind ∧ t.provider = p.2.provider ∧ t.feature = p.1.id
  vertex : t.visibility.hasVertex ↔ ∃ f ∈ features, Requires f group t.name ∧ f.stage.hasVertex
  fragment : t.visibility.hasFragment ↔
    ∃ f ∈ features, Requires f group t.name ∧ f.stage.hasFragment

namespace Gathers

theorem mem_names_iff (h : Gathers group (requirements features) bs) :
    name ∈ bs.map Binding.name ↔ ∃ f ∈ features, Requires f group name := by
  constructor
  · intro hname
    obtain ⟨t, ht, rfl⟩ := List.mem_map.mp hname
    obtain ⟨p, hp, -⟩ := h.first t ht
    obtain ⟨hp, hgroup, hname⟩ := firstFor?_mem hp
    obtain ⟨f, hf, hrequires, -⟩ :=
      exists_requirement_iff (P := fun _ => True).mp ⟨p, hp, hgroup, hname, trivial⟩
    exact ⟨f, hf, hrequires⟩
  · rintro ⟨f, hf, hrequires⟩
    obtain ⟨p, hp, hgroup, rfl, -⟩ :=
      exists_requirement_iff (P := fun _ => True).mpr ⟨f, hf, hrequires, trivial⟩
    obtain ⟨t, ht, hname⟩ := h.declared p hp hgroup
    exact hname ▸ List.mem_map_of_mem ht

theorem declaredBy (h : Gathers group (requirements features) bs) (ht : t ∈ bs) :
    DeclaredBy features group t where
  first := h.first t ht
  -- A stage is missing if all declarations keep to the other one.
  vertex := by
    rw [← exists_requirement_iff, ← not_iff_not, ← Stage.within_fragment_iff, h.visibility t ht]
    simp [Stage.within_fragment_iff]
  fragment := by
    rw [← exists_requirement_iff, ← not_iff_not, ← Stage.within_vertex_iff, h.visibility t ht]
    simp [Stage.within_vertex_iff]

end Gathers

end ShaderWeave.Bindings
