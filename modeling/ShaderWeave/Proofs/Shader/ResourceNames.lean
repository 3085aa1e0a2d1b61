import ShaderWeave.Proofs.Shader.EnvironmentBindings

/-!
# Names of resources

A resource is known by its name and its group. Each of the two groups of bindings has a name at most once,
and its section declares it once. A name that features require in both groups is two resources, and each
section declares its own.
-/

namespace ShaderWeave

open Bindings

variable {shader : Shader} {features : List Feature} {name : String}

/-- The features declare the name in the textures group and in the environment group. -/
def InBothGroups (features : List Feature) (name : String) : Prop :=
  (∃ f ∈ features, Requires f .textures name) ∧ ∃ f ∈ features, Requires f .environment name

namespace Shader

def textureNames (shader : Shader) : List String := shader.textures.map Binding.name

def environmentNames (shader : Shader) : List String := shader.environment.map Binding.name

/-- The declarations of the textures in the source. -/
def textureDeclarations (shader : Shader) : List String :=
  shader.textures.map fun t => t.kind.declaration 2 t.index t.name ++ ";"

/-- The resources of a shader by their names, in the bindings of the two groups and in the two sections
that declare them. -/
structure NamesResources (shader : Shader) (features : List Feature) : Prop where
  textures : shader.textureNames.Nodup
  environment : shader.environmentNames.Nodup
  textureSource : shader.sections features .textureBindings = Text.unlines shader.textureDeclarations
  /-- Before its declarations, the section of the environment has nothing but definitions of structs. -/
  environmentSource : ∃ defs, (∀ d ∈ defs, ∃ s ∈ Slot.table, s.structDef = some d) ∧
    shader.sections features .environmentBindings = Text.unlines (defs ++ shader.environmentDeclarations)
  shared : ∀ name, name ∈ shader.textureNames ∧ name ∈ shader.environmentNames ↔
    InBothGroups features name
  once : (shader.textureNames ++ shader.environmentNames).Nodup ↔ ∀ name, ¬ InBothGroups features name

theorem nodup_names_iff (htextures : shader.textureNames.Nodup)
    (henvironment : shader.environmentNames.Nodup) :
    (shader.textureNames ++ shader.environmentNames).Nodup ↔
      ∀ name, ¬ (name ∈ shader.textureNames ∧ name ∈ shader.environmentNames) := by
  rw [List.nodup_append]
  constructor
  · rintro ⟨-, -, hne⟩ name ⟨ht, he⟩
    exact hne name ht name he rfl
  · intro h
    refine ⟨htextures, henvironment, ?_⟩
    rintro name ht _ he rfl
    exact h name ⟨ht, he⟩

theorem namesResources
    (h : collect features = .ok ⟨shader.uniforms, shader.textures, shader.environment⟩) :
    shader.NamesResources features := by
  have hgathered := gathered_of_collect h
  have htextures : shader.textureNames.Nodup := hgathered.textures.names_nodup
  have henvironment : shader.environmentNames.Nodup := hgathered.environment.names_nodup
  have hshared (name : String) : name ∈ shader.textureNames ∧ name ∈ shader.environmentNames ↔
      InBothGroups features name :=
    and_congr hgathered.textures.mem_names_iff hgathered.environment.mem_names_iff
  have hdefs : ∀ d ∈ Sections.structDefs shader.environment, ∃ s ∈ Slot.table, s.structDef = some d := by
    intro d hd
    obtain ⟨s, hs, -, hdef⟩ := (mem_structDefs_iff shader d).mp hd
    exact ⟨s, hs, hdef⟩
  refine ⟨htextures, henvironment, rfl, ⟨_, hdefs, rfl⟩, hshared, ?once⟩
  case once =>
    rw [nodup_names_iff htextures henvironment]
    exact forall_congr' fun name => not_congr (hshared name)

end Shader

namespace Library

/-- Each of the two groups has a name at most once, and both have it if and only if the features require it
in both. -/
theorem compose_namesResources (lib : Library) (ids : List String) (shader : Shader)
    (h : lib.compose ids = .ok shader) :
    ∃ features, lib.resolve ids = .ok features ∧
      lib.template.fill (shader.sections features) = .ok shader.source ∧
      shader.NamesResources features := by
  obtain ⟨features, hres, hmade⟩ := exists_assembledFrom h
  exact ⟨features, hres, hmade.fill, Shader.namesResources hmade.bindings⟩

theorem compose_namesResources_textured_shadow :
    ∃ shader features, (standard Marks.engine).compose ["textured", "shadow"] = .ok shader ∧
      (standard Marks.engine).resolve ["textured", "shadow"] = .ok features ∧
      shader.NamesResources features ∧ ∀ name, ¬ InBothGroups features name := by
  have hnames : ((standard Marks.engine).resolve ["textured", "shadow"] >>= collect).map (fun b =>
      decide (b.textures.map Binding.name ++ b.environment.map Binding.name).Nodup) = .ok true := by
    decide +kernel
  obtain ⟨shader, hshader, hnodup⟩ := compose_base_of_map Marks.fillsBase hnames
  obtain ⟨features, hres, -, hnamed⟩ :=
    compose_namesResources (standard Marks.engine) _ shader hshader
  exact ⟨shader, features, hshader, hres, hnamed, hnamed.once.mp (of_decide_eq_true hnodup)⟩

/-- A picture of its own, under the name that the environment has for the map of the shadows. -/
def decal : Feature :=
  { id := "decal", stage := .fragment, resources := [.texture "shadowMap" .float .d2] }

theorem shadowMap_twice_decal_shadow :
    ∃ shader, (Marks.library (Registry.builtin.register decal).state).compose ["decal", "shadow"] =
        .ok shader ∧
      shader.textureNames = ["shadowMap"] ∧
      shader.environmentNames = ["shadowMap", "shadowSampler", "cascadedShadowMap", "cascadeUniforms"] ∧
      ¬ (shader.textureNames ++ shader.environmentNames).Nodup := by
  have hnames : ((Marks.library (Registry.builtin.register decal).state).resolve ["decal", "shadow"] >>=
      collect).map (fun b => (b.textures.map Binding.name, b.environment.map Binding.name)) =
        .ok (["shadowMap"], ["shadowMap", "shadowSampler", "cascadedShadowMap", "cascadeUniforms"]) := by
    decide +kernel
  obtain ⟨shader, hshader, hbindings⟩ := compose_base_of_map Marks.fillsBase hnames
  obtain ⟨htextures, henvironment⟩ := Prod.mk.inj hbindings
  refine ⟨shader, hshader, htextures, henvironment, ?_⟩
  rw [Shader.textureNames, Shader.environmentNames, htextures, henvironment]
  decide

end Library

end ShaderWeave
