import ShaderWeave.Proofs.Shader.Compatibility
import ShaderWeave.Proofs.Shader.Varyings

/-!
# The vertex output

The base template opens the struct of the vertex output with four fields, and the varyings of the features
follow. A name that features declare several times gets one field. But the names of the four fields are
not looked at: a varying of such a name is a second field of that name.
-/

namespace ShaderWeave

open FirstOccurrences Sections Text

/-- A field of a struct in the source. -/
structure OutputField where
  attributes : String
  name : String
  type : String

def OutputField.line (f : OutputField) : String := s!"    {f.attributes} {f.name}: {f.type},\n"

namespace VertexOutput

/-- The fields that the base template has. -/
def baseFields : List OutputField := [
  ⟨"@builtin(position)", "clip_position", "vec4<f32>"⟩,
  ⟨"@location(0)", "world_position", "vec3<f32>"⟩,
  ⟨"@location(1)", "world_normal", "vec3<f32>"⟩,
  ⟨"@location(2)", "uv", "vec2<f32>"⟩]

def baseNames : List String := baseFields.map OutputField.name

/-- The field of a varying at a place after the fields of the template. -/
def varyingField (i : Nat) (v : Varying) : OutputField where
  attributes :=
    s!"@location({baseVaryingLocations + i})" ++ if v.type.isInteger then " @interpolate(flat)" else ""
  name := v.name
  type := v.type.wgsl

/-- The fields that the features add, one for each name. -/
def varyingFields (features : List Feature) : List OutputField :=
  (firstVaryings [] (allVaryings features)).mapIdx varyingField

def fields (features : List Feature) : List OutputField := baseFields ++ varyingFields features

def names (features : List Feature) : List String := (fields features).map OutputField.name

def opening : String := "struct VertexOutput \x7b\n"

def closing : String := "\n\x7d;"

/-- The struct of the vertex output. -/
def text (features : List Feature) : String :=
  opening ++ String.join ((fields features).map OutputField.line) ++ closing

variable {features : List Feature} {sections : Sections}

/-! ## The struct in the source -/

theorem line_varyingField (i : Nat) (v : Varying) :
    (varyingField i v).line = Sections.varyingField v i := by
  rw [← String.toList_inj]
  unfold OutputField.line varyingField Sections.varyingField
  simp [toString]

theorem join_varyingFields (features : List Feature) :
    String.join ((varyingFields features).map OutputField.line) = varyings features := by
  simp [varyingFields, varyings, List.mapIdx_eq_zipIdx_map, ← line_varyingField, Function.comp_def]

theorem text_eq (features : List Feature) : text features =
    opening ++ String.join (baseFields.map OutputField.line) ++ varyings features ++ closing := by
  rw [text, fields, List.map_append, String.join_append, join_varyingFields]
  simp only [String.append_assoc]

/-- The lines of the base template that open the struct. -/
def openingLines : List String := [
  "struct VertexOutput \x7b",
  "    @builtin(position) clip_position: vec4<f32>,",
  "    @location(0) world_position: vec3<f32>,",
  "    @location(1) world_normal: vec3<f32>,",
  "    @location(2) uv: vec2<f32>,",
  ""]

theorem unlines_openingLines :
    unlines openingLines = opening ++ String.join (baseFields.map OutputField.line) := by
  decide +kernel

/-- The literal before the varyings ends with the opened struct, and the one after them closes it. -/
theorem baseSegments_split : ∃ before ls closing after, Template.baseSegments =
    before ++ [.literal (unlines (ls ++ openingLines)), .marker .varyings,
      .literal (unlines ("" :: "\x7d;" :: "" :: closing))] ++ after :=
  ⟨[_, _, _, _, _, _], [_, _, _, _, _, _, _, _], _, _, rfl⟩

theorem exists_text_in_base (h : sections .varyings = varyings features) :
    ∃ before after, Segment.joinFilled sections Template.baseSegments =
      before ++ text features ++ after := by
  obtain ⟨before, ls, closing, after, hsplit⟩ := baseSegments_split
  obtain ⟨start, stop, htext⟩ :=
    Template.exists_struct_in_base hsplit (by simp [openingLines]) (by simp) sections
  exact ⟨start, stop, by rw [htext, text_eq, unlines_openingLines, h]; rfl⟩

/-! ## The names -/

theorem names_varyingFields (features : List Feature) :
    (varyingFields features).map OutputField.name =
      ((allVaryings features).map fun p => p.2.name).eraseDups := by
  have hname (vs : List Varying) : (vs.mapIdx varyingField).map OutputField.name = vs.map Varying.name := by
    apply List.ext_getElem?
    simp [varyingField, Function.comp_def]
  rw [varyingFields, hname, firstVaryings_allVaryings, names_firstDeclarations, ← map_snd_allVaryings,
    List.map_map]
  rfl

theorem mem_names_varyingFields_iff {name : String} :
    name ∈ (varyingFields features).map OutputField.name ↔
      ∃ f ∈ features, ∃ v ∈ f.varyings, v.name = name := by
  simp [names_varyingFields, allVaryings, and_assoc]

theorem names_eq (features : List Feature) :
    names features = baseNames ++ (varyingFields features).map OutputField.name := by
  rw [names, fields, List.map_append, baseNames]

theorem nodup_names_iff (features : List Feature) :
    (names features).Nodup ↔ ∀ f ∈ features, ∀ v ∈ f.varyings, v.name ∉ baseNames := by
  have hbase : baseNames.Nodup := by decide
  have hvaryings : ((varyingFields features).map OutputField.name).Nodup := by
    rw [names_varyingFields]
    exact nodup_eraseDups _
  rw [names_eq, List.nodup_append]
  constructor
  · rintro ⟨-, -, hne⟩ f hf v hv hname
    exact hne _ hname _ (mem_names_varyingFields_iff.mpr ⟨f, hf, v, hv, rfl⟩) rfl
  · intro h
    refine ⟨hbase, hvaryings, ?_⟩
    rintro name hname _ hvarying rfl
    obtain ⟨f, hf, v, hv, rfl⟩ := mem_names_varyingFields_iff.mp hvarying
    exact h f hf v hv hname

end VertexOutput

namespace Library

open Template VertexOutput

theorem exists_text_in_source {engine : Engine} (hengine : engine.FillsBase) {key : RequestKey}
    {features : List Feature} {shader : Shader} (h : shader.AssembledFrom (.base engine) key features) :
    ∃ before after, shader.source = before ++ text features ++ after := by
  rw [← Except.ok.inj ((fill_base hengine _).symm.trans h.fill)]
  exact exists_text_in_base rfl

/-- The vertex output has the four fields of the base template and then the varyings. Their names are distinct
if and only if no feature declares a varying of the name of one of the four. -/
theorem compose_vertexOutput (engine : Engine) (hengine : engine.FillsBase) (r : Registry)
    (ids : List String) (shader : Shader)
    (h : (Library.mk r (.base engine)).compose ids = .ok shader) :
    ∃ features, (Library.mk r (.base engine)).resolve ids = .ok features ∧
      (Template.base engine).fill (shader.sections features) = .ok shader.source ∧
      shader.sections features .varyings = String.join ((varyingFields features).map OutputField.line) ∧
      (∃ before after, shader.source = before ++ text features ++ after) ∧
      (varyingFields features).map OutputField.name =
        ((allVaryings features).map fun p => p.2.name).eraseDups ∧
      ((names features).Nodup ↔ ∀ f ∈ features, ∀ v ∈ f.varyings, v.name ∉ baseNames) := by
  obtain ⟨features, hres, hmade⟩ := exists_assembledFrom h
  exact ⟨features, hres, hmade.fill, (join_varyingFields features).symm,
    exists_text_in_source hengine hmade, names_varyingFields features, nodup_names_iff features⟩

/-- Rain and puddles hand on one depth, and puddles the number of their cell too. -/
def rain : Feature :=
  { id := "rain", stage := .vertex, varyings := [⟨"rainDepth", .numeric .f32⟩] }

def puddles : Feature :=
  { id := "puddles", stage := .both, dependencies := ["rain"]
    varyings := [⟨"cell", .numeric .u32⟩, ⟨"rainDepth", .numeric .f32⟩] }

def wet : Registry := ((Registry.empty.register rain).state.register puddles).state

theorem compose_vertexOutput_puddles :
    ∃ shader, (Marks.library wet).compose ["puddles"] = .ok shader ∧
      (∃ before after, shader.source = before ++ text [rain, puddles] ++ after) ∧
      names [rain, puddles] = baseNames ++ ["rainDepth", "cell"] ∧ (names [rain, puddles]).Nodup := by
  have hres : (Marks.library wet).resolve ["puddles"] = .ok [rain, puddles] := by decide +kernel
  obtain ⟨shader, hshader, -⟩ := compose_base_of_collect Marks.fillsBase hres rfl
  obtain ⟨features, hfeatures, -, -, hsource, hnames, hnodup⟩ :=
    compose_vertexOutput Marks.engine Marks.fillsBase wet _ shader hshader
  obtain rfl : features = [rain, puddles] := Except.ok.inj (hfeatures.symm.trans hres)
  refine ⟨shader, hshader, hsource, ?_, hnodup.mpr ?_⟩
  · rw [names_eq, hnames]
    rfl
  · decide

/-- A feature that hands on texture coordinates of its own, under the name of those of the template. -/
def scroll : Feature :=
  { id := "scroll", stage := .both, varyings := [⟨"uv", .numeric .vec2⟩] }

theorem vertexOutput_repeats_scroll :
    ∃ shader, (Marks.library (Registry.empty.register scroll).state).compose ["scroll"] = .ok shader ∧
      (∃ before after, shader.source = before ++ text [scroll] ++ after) ∧
      names [scroll] = ["clip_position", "world_position", "world_normal", "uv", "uv"] ∧
      ¬ (names [scroll]).Nodup := by
  have hres : (Marks.library (Registry.empty.register scroll).state).resolve ["scroll"] =
      .ok [scroll] := by decide +kernel
  obtain ⟨shader, hshader, -⟩ := compose_base_of_collect Marks.fillsBase hres rfl
  have hmade := assembledFrom_of_compose hshader hres
  exact ⟨shader, hshader, exists_text_in_source Marks.fillsBase hmade, rfl, by decide⟩

end Library

end ShaderWeave
