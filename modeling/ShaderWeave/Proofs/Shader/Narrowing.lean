import ShaderWeave.Proofs.Shader.Compatibility
import ShaderWeave.Proofs.Shader.Merging

/-!
# The textures of fewer ids

A host makes one layout for the textures group and binds all shaders with textures against it. The
textures of a shader are numbered from zero on in the order in which their names are first required, so
a shader of fewer ids has textures of the same names and kinds, but its numbers are its own.
-/

namespace ShaderWeave

namespace Bindings

variable {features fewer : List Feature} {reqs part : List (Feature × Requirement)}
  {bs bs' : List Binding} {group : Group} {t u : Binding} {i : Nat}

/-! ## Fewer requirements -/

theorem Gathers.exists_within (h : Gathers group part bs) (h' : Gathers group reqs bs')
    (hcompatible : Compatible reqs) (hpart : part ⊆ reqs) (ht : t ∈ bs) :
    ∃ u ∈ bs', u.name = t.name ∧ u.kind = t.kind ∧ t.visibility.Within u.visibility := by
  obtain ⟨p, hp, hkind, -⟩ := h.first t ht
  obtain ⟨hp, hpgroup, hpname⟩ := firstFor?_mem hp
  obtain ⟨u, hu, huname⟩ := h'.declared p (hpart hp) hpgroup
  obtain ⟨p', hp', hkind', -⟩ := h'.first u hu
  obtain ⟨hp', hp'group, hp'name⟩ := firstFor?_mem hp'
  have hname : u.name = t.name := huname.trans hpname
  refine ⟨u, hu, hname, ?_, ?_⟩
  · -- The two may come from different requirements, which agree.
    rw [hkind, hkind']
    exact hcompatible.agree p' hp' p (hpart hp) (by rw [hp'name, huname]) (hp'group.trans hpgroup.symm)
  · rw [h.visibility t ht]
    intro p hp hpgroup hpname
    exact (h'.visibility u hu _).mp (Stage.within_refl _) p (hpart hp) hpgroup (hpname.trans hname.symm)

theorem names_isPrefix (h : fewer <+: features) :
    (requiredNames group (requirements fewer)).eraseDups <+:
      (requiredNames group (requirements features)).eraseDups := by
  obtain ⟨more, rfl⟩ := h
  have hnames : requiredNames group (requirements (fewer ++ more)) =
      requiredNames group (requirements fewer) ++ requiredNames group (requirements more) := by
    simp only [requiredNames, requirements_append, List.filter_append, List.map_append]
  rw [hnames, List.eraseDups_append]
  exact List.prefix_append _ _

/-! ## Places in a layout -/

theorem getElem?_index (h : bs.map Binding.index = List.range bs.length) (ht : t ∈ bs) :
    bs[t.index]? = some t := by
  obtain ⟨i, hi⟩ := List.mem_iff_getElem?.mp ht
  rwa [index_eq_of_getElem? h hi]

/-- Where bindings are numbered from zero on, one layout covers another place by place. -/
theorem covers_iff (h : bs.map Binding.index = List.range bs.length)
    (h' : bs'.map Binding.index = List.range bs'.length) :
    Covers (bs'.map Binding.layoutEntry) (bs.map Binding.layoutEntry) ↔
      ∀ (i : Nat) (t : Binding), bs[i]? = some t → ∃ u : Binding, bs'[i]? = some u ∧
        BindingType.ofKind u.kind = .ofKind t.kind ∧ t.visibility.Within u.visibility := by
  rw [Covers, List.forall_mem_map]
  simp only [List.mem_map, exists_exists_and_eq_and]
  constructor
  · intro hcovers i t ht
    obtain ⟨u, hu, hindex, htype, hvisibility⟩ := hcovers t (List.mem_of_getElem? ht)
    have hui : u.index = i := hindex.trans (index_eq_of_getElem? h ht)
    exact ⟨u, hui ▸ getElem?_index h' hu, htype, hvisibility⟩
  · intro hplaces t ht
    obtain ⟨u, hu, htype, hvisibility⟩ := hplaces t.index t (getElem?_index h ht)
    exact ⟨u, List.mem_of_getElem? hu, index_eq_of_getElem? h' hu, htype, hvisibility⟩

theorem getElem?_of_names_isPrefix (hnodup : (bs'.map Binding.name).Nodup)
    (h : bs.map Binding.name <+: bs'.map Binding.name) (ht : bs[i]? = some t) (hu : u ∈ bs')
    (hname : u.name = t.name) : bs'[i]? = some u := by
  obtain ⟨hi, rfl⟩ := List.getElem?_eq_some_iff.mp ht
  have hplace := List.prefix_iff_getElem?.mp h i (by simpa using hi)
  rw [List.getElem_map, List.getElem?_map, Option.map_eq_some_iff] at hplace
  obtain ⟨v, hv, hvname⟩ := hplace
  have huv : u = v :=
    List.inj_on_of_nodup_map hnodup hu (List.mem_of_getElem? hv) (hname.trans hvname.symm)
  rw [huv, hv]

end Bindings

namespace Library

open Bindings Template

/-- On the base template, fewer ids have a shader if more have one, but the layout for more covers the layout
for fewer just when the two agree place by place. -/
theorem textureLayout_covers_iff (engine : Engine) (hengine : engine.FillsBase) (r : Registry)
    (more fewer : List String) (wide : Shader)
    (hwide : (Library.mk r (.base engine)).compose more = .ok wide) (hsub : fewer ⊆ more) :
    ∃ narrow, (Library.mk r (.base engine)).compose fewer = .ok narrow ∧
      (∀ t ∈ narrow.textures, ∃ u ∈ wide.textures,
        u.name = t.name ∧ u.kind = t.kind ∧ t.visibility.Within u.visibility) ∧
      (Covers wide.textureLayout narrow.textureLayout ↔
        ∀ (i : Nat) (t : Binding), narrow.textures[i]? = some t →
          ∃ u : Binding, wide.textures[i]? = some u ∧
            BindingType.ofKind u.kind = .ofKind t.kind ∧ t.visibility.Within u.visibility) ∧
      (narrow.textures.map Binding.name <+: wide.textures.map Binding.name →
        Covers wide.textureLayout narrow.textureLayout) ∧
      (narrow.features <+: wide.features →
        narrow.textures.map Binding.name <+: wide.textures.map Binding.name) := by
  obtain ⟨features, hres, hmade⟩ := exists_assembledFrom hwide
  have hcompatible := compatible_of_compose hres hwide
  obtain ⟨part, hpart, hsubset⟩ := Registry.resolve_subset (r := r) hres hsub
  have hrequirements := requirements_mono hsubset
  obtain ⟨narrow, hnarrow⟩ := compose_base_ok hengine hpart (hcompatible.mono hrequirements)
  have hmade' := assembledFrom_of_compose hnarrow hpart
  have hw := gathered_of_collect hmade.bindings
  have hn := gathered_of_collect hmade'.bindings
  have hexists : ∀ t ∈ narrow.textures, ∃ u ∈ wide.textures,
      u.name = t.name ∧ u.kind = t.kind ∧ t.visibility.Within u.visibility :=
    fun t ht => hn.textures.exists_within hw.textures hcompatible hrequirements ht
  have hiff := covers_iff hn.indices hw.indices
  refine ⟨narrow, hnarrow, hexists, hiff, ?names, ?features⟩
  case names =>
    intro hnames
    refine hiff.mpr fun i t ht => ?_
    obtain ⟨u, hu, hname, hkind, hvisibility⟩ := hexists t (List.mem_of_getElem? ht)
    refine ⟨u, ?_, by rw [hkind], hvisibility⟩
    exact getElem?_of_names_isPrefix hw.textures.names_nodup hnames ht hu hname
  case features =>
    intro hfirst
    rw [hmade.ids, hmade'.ids] at hfirst
    rw [show narrow.textures.map Binding.name = _ from hn.names,
      show wide.textures.map Binding.name = _ from hw.names]
    exact names_isPrefix ((Registry.visited_of_resolve hpart).ordered.isPrefix_of_ids
      (Registry.visited_of_resolve hres).ordered hfirst)

def albedo : Feature :=
  { id := "albedo", stage := .fragment, resources := [.texture "picture" .float .d2] }

def blur : Feature :=
  { id := "blur", stage := .fragment, resources := [.sampler "pictureSampler" .filtering] }

def pictures : Registry := ((Registry.empty.register albedo).state.register blur).state

theorem compose_pictures :
    ∃ shader, (Marks.library pictures).compose ["albedo", "blur"] = .ok shader ∧
    shader.features = ["albedo", "blur"] ∧
    shader.textures = [⟨"picture", 0, .texture .float .d2, .fragment, "", "albedo"⟩,
      ⟨"pictureSampler", 1, .sampler .filtering, .fragment, "", "blur"⟩] := by
  have hres : (Marks.library pictures).resolve ["albedo", "blur"] = .ok [albedo, blur] := by
    decide +kernel
  obtain ⟨shader, hshader, hfeatures, hbindings⟩ := compose_base_of_collect Marks.fillsBase hres rfl
  exact ⟨shader, hshader, hfeatures, congrArg Bindings.textures hbindings⟩

theorem textureLayout_covers_albedo :
    ∃ wide narrow, (Marks.library pictures).compose ["albedo", "blur"] = .ok wide ∧
      (Marks.library pictures).compose ["albedo"] = .ok narrow ∧ narrow.textures ≠ [] ∧
      Covers wide.textureLayout narrow.textureLayout := by
  obtain ⟨wide, hwide, hfeatures, -⟩ := compose_pictures
  have hres : (Marks.library pictures).resolve ["albedo"] = .ok [albedo] := by decide +kernel
  obtain ⟨shader, hshader, hshaderFeatures, hbindings⟩ :=
    compose_base_of_collect Marks.fillsBase hres rfl
  have htextures : shader.textures = [_] := congrArg Bindings.textures hbindings
  obtain ⟨narrow, hnarrow, -, -, hnames, hfirst⟩ :=
    textureLayout_covers_iff Marks.engine Marks.fillsBase pictures ["albedo", "blur"] ["albedo"] wide hwide
      (by simp)
  obtain rfl : narrow = shader := Except.ok.inj (hnarrow.symm.trans hshader)
  refine ⟨wide, narrow, hwide, hnarrow, by simp [htextures], hnames (hfirst ?_)⟩
  rw [hshaderFeatures, hfeatures]
  exact ⟨["blur"], rfl⟩

/-- Blur alone has its sampler at the place where a layout for both has the texture. -/
theorem textureLayout_not_covers_blur :
    ¬ ∀ (engine : Engine) (r : Registry) (more fewer : List String) (wide narrow : Shader),
      engine.FillsBase → (Library.mk r (.base engine)).compose more = .ok wide → fewer ⊆ more →
      (Library.mk r (.base engine)).compose fewer = .ok narrow →
      Covers wide.textureLayout narrow.textureLayout := by
  intro h
  obtain ⟨wide, hwide, -, hboth⟩ := compose_pictures
  have hres : (Marks.library pictures).resolve ["blur"] = .ok [blur] := by decide +kernel
  obtain ⟨narrow, hnarrow, -, hblur⟩ := compose_base_of_collect Marks.fillsBase hres rfl
  replace hblur : narrow.textures = [_] := congrArg Bindings.textures hblur
  have hcovers := h Marks.engine pictures ["albedo", "blur"] ["blur"] wide narrow Marks.fillsBase hwide
    (by simp) hnarrow
  rw [Shader.textureLayout, Shader.textureLayout, hboth, hblur] at hcovers
  exact absurd hcovers (by decide)

end Library

end ShaderWeave
