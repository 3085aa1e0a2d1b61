import Mathlib.Data.List.Forall2
import ShaderWeave.Proofs.Shader.Compatibility
import ShaderWeave.Proofs.Shader.Merging
import ShaderWeave.Proofs.Wgsl.StructLayout

/-!
# More features

When features come after those of a shader, what is bound for it already stays: fields keep their offsets
and bindings their indices. Only stages may be added to a binding. New fields and textures stand after all
others, and new bindings of the environment between them.
-/

namespace ShaderWeave

open Wgsl

/-- The binding `u` is `t` again, maybe in more stages. -/
structure Binding.WidenedTo (t u : Binding) : Prop where
  name : u.name = t.name
  index : u.index = t.index
  kind : u.kind = t.kind
  provider : u.provider = t.provider
  feature : u.feature = t.feature
  visibility : t.visibility.Within u.visibility

theorem Stage.within_trans {a b c : Stage} (h : a.Within b) (h' : b.Within c) : a.Within c :=
  ⟨h'.1 ∘ h.1, h'.2 ∘ h.2⟩

namespace Binding.WidenedTo

variable {t u v : Binding}

theorem refl (t : Binding) : t.WidenedTo t := ⟨rfl, rfl, rfl, rfl, rfl, Stage.within_refl _⟩

theorem trans (h : t.WidenedTo u) (h' : u.WidenedTo v) : t.WidenedTo v where
  name := h'.name.trans h.name
  index := h'.index.trans h.index
  kind := h'.kind.trans h.kind
  provider := h'.provider.trans h.provider
  feature := h'.feature.trans h.feature
  visibility := Stage.within_trans h.visibility h'.visibility

instance : Std.Refl Binding.WidenedTo := ⟨refl⟩

instance : IsTrans Binding Binding.WidenedTo := ⟨fun _ _ _ => trans⟩

theorem union (t : Binding) (stage : Stage) :
    t.WidenedTo { t with visibility := t.visibility.union stage } :=
  ⟨rfl, rfl, rfl, rfl, rfl, (Stage.union_within_iff.mp (Stage.within_refl _)).1⟩

end Binding.WidenedTo

namespace Bindings

variable {b b' b'' : Bindings} {f : Feature} {q : Requirement} {bs cs ds : List Binding}
  {reqs rest : List (Feature × Requirement)} {fewer more : List Feature}

/-! ## Lists of bindings -/

/-- The bindings `cs` start with those of `bs`, place by place, maybe in more stages. -/
def StartWith (bs cs : List Binding) : Prop :=
  ∀ (i : Nat) (t : Binding), bs[i]? = some t → ∃ u : Binding, cs[i]? = some u ∧ t.WidenedTo u

theorem StartWith.refl (bs : List Binding) : StartWith bs bs := fun _ t ht => ⟨t, ht, .refl t⟩

theorem StartWith.trans (h : StartWith bs cs) (h' : StartWith cs ds) : StartWith bs ds := by
  intro i t ht
  obtain ⟨u, hu, htu⟩ := h i t ht
  obtain ⟨v, hv, huv⟩ := h' i u hu
  exact ⟨v, hv, htu.trans huv⟩

theorem StartWith.cons {t u : Binding} (htu : t.WidenedTo u) (h : StartWith bs cs) :
    StartWith (t :: bs) (u :: cs) := by
  intro i
  cases i with
  | zero =>
    rintro t' ht
    obtain rfl : t = t' := by simpa using ht
    exact ⟨u, rfl, htu⟩
  | succ i => exact h i

theorem startWith_append (bs cs : List Binding) : StartWith bs (bs ++ cs) := by
  intro i t ht
  obtain ⟨hi, -⟩ := List.getElem?_eq_some_iff.mp ht
  exact ⟨t, by rw [List.getElem?_append_left hi, ht], .refl t⟩

theorem startWith_widen (name : String) (stage : Stage) (bs : List Binding) :
    StartWith bs (widen name stage bs) := by
  induction bs with
  | nil => exact .refl []
  | cons t bs ih =>
    rw [widen]
    split
    · exact (StartWith.refl bs).cons (.union t stage)
    · exact ih.cons (.refl t)

/-- The bindings `bs` are among `cs` in their order, maybe in more stages. -/
def Among (bs cs : List Binding) : Prop := bs.SublistForall₂ Binding.WidenedTo cs

theorem Among.refl (bs : List Binding) : Among bs bs := refl_of (List.SublistForall₂ _) bs

theorem Among.trans (h : Among bs cs) (h' : Among cs ds) : Among bs ds :=
  trans_of (List.SublistForall₂ Binding.WidenedTo) h h'

theorem among_widen (name : String) (stage : Stage) (bs : List Binding) :
    Among bs (widen name stage bs) := by
  induction bs with
  | nil => exact .refl []
  | cons t bs ih =>
    rw [widen]
    split
    · exact .cons (.union t stage) (Among.refl bs)
    · exact .cons (.refl t) ih

theorem insertByIndex_sublist (t : Binding) (bs : List Binding) : bs.Sublist (insertByIndex t bs) := by
  induction bs with
  | nil => exact List.nil_sublist _
  | cons x bs ih =>
    rw [insertByIndex]
    split
    · exact List.sublist_cons_self _ _
    · exact ih.cons_cons x

/-! ## Requirements one after another -/

/-- All that is bound in `b` is bound in `b'`. -/
structure GrowsTo (b b' : Bindings) : Prop where
  uniforms : b.uniforms <+: b'.uniforms
  textures : StartWith b.textures b'.textures
  environment : Among b.environment b'.environment

theorem GrowsTo.refl (b : Bindings) : b.GrowsTo b := ⟨List.prefix_refl _, .refl _, .refl _⟩

theorem GrowsTo.trans (h : b.GrowsTo b') (h' : b'.GrowsTo b'') : b.GrowsTo b'' where
  uniforms := h.uniforms.trans h'.uniforms
  textures := h.textures.trans h'.textures
  environment := h.environment.trans h'.environment

theorem Adds.growsTo (h : b.Adds f q b') : b.GrowsTo b' where
  uniforms := by
    obtain ⟨-, hb⟩ | ⟨-, -, hb⟩ | ⟨type, -, -, -, -, hb⟩ := h.uniforms_cases
    · rw [hb]
    · rw [hb]
    · rw [hb]
      exact List.prefix_append _ _
  textures := by
    obtain ⟨-, hb⟩ | ⟨-, -, hb⟩ | ⟨-, -, hb⟩ := h.textures_cases
    · rw [hb]
      exact .refl _
    · rw [hb]
      exact startWith_widen _ _ _
    · rw [hb]
      exact startWith_append _ _
  environment := by
    obtain ⟨-, hb⟩ | ⟨-, -, hb⟩ | ⟨slot, -, -, -, -, hb⟩ := h.environment_cases
    · rw [hb]
      exact .refl _
    · rw [hb]
      exact among_widen _ _ _
    · rw [hb]
      exact (insertByIndex_sublist _ _).sublistForall₂

theorem growsTo_of_addAll (h : b.addAll rest = .ok b') : b.GrowsTo b' :=
  addAll_induction (P := fun _ c => b.GrowsTo c) []
    (fun _ _ _ _ _ hgrows hadd => hgrows.trans hadd.growsTo) (.refl b) h

theorem addAll_append (h : b.addAll reqs = .ok b') : b.addAll (reqs ++ rest) = b'.addAll rest := by
  induction reqs generalizing b with
  | nil =>
    obtain rfl : b = b' := by simpa [addAll] using h
    rfl
  | cons p reqs ih =>
    obtain ⟨f, q⟩ := p
    rw [List.cons_append, addAll]
    rw [addAll] at h
    split at h
    · simp at h
    · exact ih h

theorem growsTo_of_collect (h : collect fewer = .ok b) (h' : collect more = .ok b')
    (hfirst : fewer <+: more) : b.GrowsTo b' := by
  obtain ⟨later, rfl⟩ := hfirst
  rw [collect, requirements_append, addAll_append h] at h'
  exact growsTo_of_addAll h'

end Bindings

/-- What stands before does not move. -/
theorem Uniforms.offsets_isPrefix {fields more : List ObjectField} (h : fields <+: more) :
    offsets fields <+: offsets more := by
  obtain ⟨later, rfl⟩ := h
  rw [offsets, offsets, List.map_append, place_append]
  exact List.prefix_append _ _

namespace Library

open Bindings

/-- If the features of one shader come first among those of another, the other has its fields, at their
offsets, and its textures first, with their indices, and the bindings of its environment in their order. -/
theorem compose_growsTo (lib : Library) (fewer more : List String) (small large : Shader)
    (hsmall : lib.compose fewer = .ok small) (hlarge : lib.compose more = .ok large)
    (hfirst : small.features <+: large.features) :
    small.uniforms <+: large.uniforms ∧
      Uniforms.offsets small.uniforms <+: Uniforms.offsets large.uniforms ∧
      StartWith small.textures large.textures ∧
      Among small.environment large.environment := by
  obtain ⟨features, hres, hmade⟩ := exists_assembledFrom hsmall
  obtain ⟨features', hres', hmade'⟩ := exists_assembledFrom hlarge
  rw [hmade.ids, hmade'.ids] at hfirst
  have hfeatures : features <+: features' :=
    (Registry.visited_of_resolve hres).ordered.isPrefix_of_ids
      (Registry.visited_of_resolve hres').ordered hfirst
  have hgrows := growsTo_of_collect hmade.bindings hmade'.bindings hfeatures
  exact ⟨hgrows.uniforms, Uniforms.offsets_isPrefix hgrows.uniforms, hgrows.textures,
    hgrows.environment⟩

/-- The sun has a field, a texture and two bindings of the environment, in the fragment stage. -/
def sun : Feature :=
  { id := "sun", stage := .fragment
    resources := [.perObject "sunTint" (.numeric .vec3), .texture "sunDisk" .float .d2] ++
      Catalogue.slots ["shadowMap", "brdfLut"] }

/-- The moon comes after the sun. In the vertex stage it uses the texture and one of the two bindings of
the sun, and has more of its own. -/
def moon : Feature :=
  { id := "moon", stage := .vertex, dependencies := ["sun"]
    resources := [.perObject "moonPhase" (.numeric .f32), .texture "sunDisk" .float .d2,
      .texture "moonDisk" .float .d2] ++ Catalogue.slots ["shadowSampler", "brdfLut"] }

def sky : Registry := ((Registry.empty.register sun).state.register moon).state

theorem compose_growsTo_moon :
    ∃ small large, (Marks.library sky).compose ["sun"] = .ok small ∧
      (Marks.library sky).compose ["moon"] = .ok large ∧
      small.features <+: large.features ∧
      Uniforms.offsets small.uniforms <+: Uniforms.offsets large.uniforms ∧
      StartWith small.textures large.textures ∧ Among small.environment large.environment ∧
      small.environment.map Binding.index = [0, 6] ∧
      large.environment.map Binding.index = [0, 1, 6] := by
  have hsun : (Marks.library sky).resolve ["sun"] = .ok [sun] := by decide +kernel
  have hmoon : (Marks.library sky).resolve ["moon"] = .ok [sun, moon] := by decide +kernel
  have hfew : ((Marks.library sky).resolve ["sun"] >>= collect).map (fun b =>
      b.environment.map Binding.index) = .ok [0, 6] := by decide +kernel
  have hmany : ((Marks.library sky).resolve ["moon"] >>= collect).map (fun b =>
      b.environment.map Binding.index) = .ok [0, 1, 6] := by decide +kernel
  obtain ⟨small, hsmall, hsmallIndices⟩ := compose_base_of_map Marks.fillsBase hfew
  obtain ⟨large, hlarge, hlargeIndices⟩ := compose_base_of_map Marks.fillsBase hmany
  have hfirst : small.features <+: large.features := by
    rw [(assembledFrom_of_compose hsmall hsun).ids, (assembledFrom_of_compose hlarge hmoon).ids]
    exact ⟨["moon"], rfl⟩
  obtain ⟨-, hoffsets, htextures, henvironment⟩ :=
    compose_growsTo (Marks.library sky) ["sun"] ["moon"] small large hsmall hlarge hfirst
  exact ⟨small, large, hsmall, hlarge, hfirst, hoffsets, htextures, henvironment, hsmallIndices,
    hlargeIndices⟩

end Library

end ShaderWeave
