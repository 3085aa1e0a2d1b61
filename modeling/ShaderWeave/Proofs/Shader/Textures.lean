import ShaderWeave.Proofs.Shader.Compatibility
import ShaderWeave.Proofs.Shader.Merging

/-!
# The numbers of the textures

Each name that the features require in the textures group gets one number, from zero on, in the order in
which the names are first required. The bindings of the shader, the declarations in its source and the
entries of its layout all have these numbers.
-/

namespace ShaderWeave

open Bindings

variable {shader : Shader} {features : List Feature}

/-- The textures of a shader in its three forms: as bindings, in the source and as layout entries. -/
structure Shader.NumbersTextures (shader : Shader) (features : List Feature) : Prop where
  index : ∀ (i : Nat) (t : Binding), shader.textures[i]? = some t → t.index = i
  names_nodup : (shader.textures.map Binding.name).Nodup
  names : shader.textures.map Binding.name = (requiredNames .textures (requirements features)).eraseDups
  declared : ∀ t ∈ shader.textures, DeclaredBy features .textures t
  source : shader.sections features .textureBindings =
    Text.unlines (shader.textures.mapIdx fun i t => t.kind.declaration 2 i t.name ++ ";")
  layout : shader.textureLayout = shader.textures.mapIdx fun i t => ⟨i, t.visibility, .ofKind t.kind⟩

/-- Where every binding has the number of its place, places may be read for numbers. -/
theorem Bindings.map_eq_mapIdx {α : Type} {bs : List Binding} (g : Nat → Binding → α)
    (h : ∀ (i : Nat) (t : Binding), bs[i]? = some t → t.index = i) :
    (bs.map fun t => g t.index t) = bs.mapIdx g := by
  apply List.ext_getElem?
  intro i
  rw [List.getElem?_map, List.getElem?_mapIdx]
  cases ht : bs[i]? with
  | none => rfl
  | some t => rw [Option.map_some, Option.map_some, h i t ht]

namespace Library

/-- The textures of a shader have one binding for each name, numbered from zero in the order in which the
names are first required. -/
theorem compose_numbersTextures (lib : Library) (ids : List String) (shader : Shader)
    (h : lib.compose ids = .ok shader) :
    ∃ features, lib.resolve ids = .ok features ∧
      lib.template.fill (shader.sections features) = .ok shader.source ∧
      shader.NumbersTextures features := by
  obtain ⟨features, hres, hmade⟩ := exists_assembledFrom h
  have hgathered := gathered_of_collect hmade.bindings
  have hindex : ∀ (i : Nat) (t : Binding), shader.textures[i]? = some t → t.index = i :=
    fun i t ht => index_eq_of_getElem? hgathered.indices ht
  refine ⟨features, hres, hmade.fill, hindex, hgathered.textures.names_nodup,
    hgathered.names, fun t ht => hgathered.textures.declaredBy ht, ?source, ?layout⟩
  case source =>
    exact congrArg Text.unlines
      (map_eq_mapIdx (fun i t => t.kind.declaration 2 i t.name ++ ";") hindex)
  case layout =>
    exact map_eq_mapIdx (fun i t => LayoutEntry.mk i t.visibility (.ofKind t.kind)) hindex

def waves : Feature :=
  { id := "waves", stage := .vertex
    resources := [.texture "heights" .unfilterable .d2, .texture "noise" .float .d2] }

def foam : Feature :=
  { id := "foam", stage := .fragment
    resources := [.texture "noise" .float .d2, .sampler "noiseSampler" .filtering]
    dependencies := ["waves"] }

def seas : Registry := ((Registry.empty.register waves).state.register foam).state

theorem compose_numbersTextures_foam :
    ∃ shader, (Marks.library seas).compose ["foam"] = .ok shader ∧
      shader.NumbersTextures [waves, foam] ∧
      shader.textures.map Binding.name = ["heights", "noise", "noiseSampler"] ∧
      shader.textureLayout[1]? = some ⟨1, .both, .texture .float .d2⟩ := by
  have hres : (Marks.library seas).resolve ["foam"] = .ok [waves, foam] := by decide +kernel
  have hb : collect [waves, foam] = .ok
      { textures := [⟨"heights", 0, .texture .unfilterable .d2, .vertex, "", "waves"⟩,
          ⟨"noise", 1, .texture .float .d2, .both, "", "waves"⟩,
          ⟨"noiseSampler", 2, .sampler .filtering, .fragment, "", "foam"⟩] } := rfl
  obtain ⟨shader, hshader, -, hbindings⟩ := compose_base_of_collect Marks.fillsBase hres hb
  obtain ⟨features, hfeatures, -, hnumbers⟩ :=
    compose_numbersTextures (Marks.library seas) ["foam"] shader hshader
  obtain rfl : features = [waves, foam] := Except.ok.inj (hfeatures.symm.trans hres)
  refine ⟨shader, hshader, hnumbers, hnumbers.names, ?_⟩
  obtain ⟨-, htextures, -⟩ := Bindings.mk.inj hbindings
  rw [hnumbers.layout, htextures]
  rfl

end Library

end ShaderWeave
