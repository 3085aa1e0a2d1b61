import ShaderWeave.Proofs.Shader.Compatibility
import ShaderWeave.Proofs.Shader.Merging
import ShaderWeave.Proofs.Wgsl.WordLayout

/-!
# The uniforms of an object

The struct of the uniforms has the base fields and then one field for each other name that the features
require. The offsets start from a written-down end of the base fields; they are the places that the layout
rule gives the appended fields in the whole struct, and no sum of them is too large for a word.
-/

namespace ShaderWeave

open Bindings Wgsl

namespace Uniforms

variable {fields : List ObjectField} {done : List (Feature × Requirement)} {b b' : Bindings}
  {f : Feature} {q : Requirement} {features : List Feature}

/-! ## The members of the struct -/

def appended (fields : List ObjectField) : List (String × Numeric) := fields.map fun u => (u.name, u.type)

def members (fields : List ObjectField) : List (String × Numeric) := baseFields ++ appended fields

def memberNames (fields : List ObjectField) : List String := (members fields).map Prod.fst

/-- The appended fields come from the requirements for fields, one for each name that no base field has. -/
structure Appends (reqs : List (Feature × Requirement)) (fields : List ObjectField) : Prop where
  names_nodup : (memberNames fields).Nodup
  declared : ∀ p ∈ reqs, p.2.group = .perObject → p.2.name ∈ memberNames fields
  first : ∀ u ∈ fields, ∃ p ∈ reqs, p.2.group = .perObject ∧ p.2.name = u.name ∧
    p.2.kind = .uniform (.numeric u.type)

theorem mem_memberNames_iff {name : String} :
    name ∈ memberNames fields ↔ (baseFields.lookup name).isSome ∨ ∃ u ∈ fields, u.name = name := by
  simp [memberNames, members, appended, List.lookup_isSome_iff]

theorem memberNames_concat (u : ObjectField) : memberNames (fields ++ [u]) = memberNames fields ++ [u.name] := by
  simp [memberNames, members, appended]

namespace Appends

theorem empty : Appends [] [] where
  names_nodup := by decide
  declared := by simp
  first := by simp

theorem concat (h : Appends done b.uniforms) (hadd : b.Adds f q b') :
    Appends (done ++ [(f, q)]) b'.uniforms := by
  have hfirst : ∀ u ∈ b.uniforms, ∃ p ∈ done ++ [(f, q)], p.2.group = .perObject ∧ p.2.name = u.name ∧
      p.2.kind = .uniform (.numeric u.type) := by
    intro u hu
    obtain ⟨p, hp, hfield⟩ := h.first u hu
    exact ⟨p, List.mem_append_left _ hp, hfield⟩
  obtain ⟨hother, hb⟩ | ⟨-, hknown, hb⟩ | ⟨type, hgroup, hkind, hbase, hnew, hb⟩ := hadd.uniforms_cases
  · rw [hb]
    refine ⟨h.names_nodup, ?_, hfirst⟩
    simpa [or_imp, forall_and, hother] using h.declared
  · rw [hb]
    refine ⟨h.names_nodup, ?_, hfirst⟩
    rw [List.forall_mem_append, List.forall_mem_singleton]
    exact ⟨h.declared, fun _ => mem_memberNames_iff.mpr hknown⟩
  · have hname : q.name ∉ memberNames b.uniforms := by
      rw [mem_memberNames_iff]
      rintro (hlookup | ⟨u, hu, hname⟩)
      · simp [hbase] at hlookup
      · exact hnew u hu hname
    rw [hb]
    refine ⟨?_, ?_, ?_⟩
    · rw [memberNames_concat]
      exact List.nodup_append.mpr ⟨h.names_nodup, by simp, by simpa using fun x hx => ne_of_mem_of_not_mem hx hname⟩
    · rw [memberNames_concat, List.forall_mem_append, List.forall_mem_singleton]
      exact ⟨fun p hp hgroup => List.mem_append_left _ (h.declared p hp hgroup), by simp⟩
    · rw [List.forall_mem_append, List.forall_mem_singleton]
      exact ⟨hfirst, (f, q), by simp, hgroup, rfl, hkind⟩

end Appends

theorem appends_of_collect (h : collect features = .ok b) : Appends (requirements features) b.uniforms := by
  have happends := addAll_induction (P := fun done b => Appends done b.uniforms) []
    (fun done b f q b' hdone hadd => hdone.concat hadd) Appends.empty h
  rwa [List.nil_append] at happends

/-- What is required of a field is what the struct has under its name. -/
theorem mem_members_of_required (h : Appends done fields) (hcompatible : Compatible done) (hmem : (f, q) ∈ done)
    (hgroup : q.group = .perObject) :
    ∃ type, q.kind = .uniform (.numeric type) ∧ (q.name, type) ∈ members fields := by
  obtain ⟨m, hm, hname⟩ := List.mem_map.mp (h.declared (f, q) hmem hgroup)
  obtain ⟨name, type⟩ := m
  obtain rfl : name = q.name := hname
  refine ⟨type, ?_, hm⟩
  rcases List.mem_append.mp hm with hbase | happended
  · exact (hcompatible.admissible (f, q) hmem).base hgroup type hbase
  · obtain ⟨u, hu, hfield⟩ := List.mem_map.mp happended
    obtain ⟨huname, rfl⟩ := Prod.mk.inj hfield
    obtain ⟨p, hp, hpgroup, hpname, hpkind⟩ := h.first u hu
    rw [← hpkind]
    exact hcompatible.agree (f, q) hmem p hp (hpname.trans huname).symm (hgroup.trans hpgroup.symm)

/-! ## The places of the members -/

def basePlaces : List Placement := place 0 baseFields

/-- The places of all members, the base fields first. -/
def places (fields : List ObjectField) : List Placement := basePlaces ++ offsets fields

/-- The written-down end of the base fields is the one that the rule gives. -/
theorem placedEnd_basePlaces : placedEnd 0 basePlaces = baseEnd := by decide

theorem places_eq (fields : List ObjectField) : places fields = place 0 (members fields) := by
  rw [members, place_append, ← basePlaces, placedEnd_basePlaces]
  rfl

theorem placedEnd_places (fields : List ObjectField) :
    placedEnd 0 (places fields) = placedEnd baseEnd (offsets fields) := by
  rw [places, placedEnd_append, placedEnd_basePlaces]

/-- The written-down alignment of the struct is the largest one of its members. -/
theorem isGreatest_structAlign (fields : List ObjectField) :
    IsGreatest {a | ∃ m ∈ members fields, m.2.align = a} structAlign := by
  refine ⟨⟨("model", .mat4), List.mem_append_left _ (by decide), rfl⟩, ?_⟩
  rintro a ⟨m, -, rfl⟩
  exact Nat.le_of_dvd (by decide) m.2.align_dvd

/-! ## In words -/

def wordOffsets? (fields : List ObjectField) : Option (List Word.Placement) :=
  Word.place? (.ofNat baseEnd) (appended fields)

def wordSize? (fields : List ObjectField) : Option UInt32 := do
  let stop ← Word.placedEnd? (.ofNat baseEnd) (← wordOffsets? fields)
  Word.alignUp? stop (.ofNat structAlign)

/-- Words are wide enough for all that is computed of the fields. -/
structure FitWords (fields : List ObjectField) : Prop where
  offsets : ∃ ps, wordOffsets? fields = some ps ∧ ps.map Word.Placement.toNat = offsets fields
  size : ∃ n, wordSize? fields = some n ∧ n.toNat = size fields

theorem fitWords (h : fields.length < 2 ^ 25) : FitWords fields := by
  have hsize : size fields ≤ alignUp baseEnd 16 + 64 * (appended fields).length :=
    alignUp_placedEnd_le baseEnd (appended fields)
  have hlength : (appended fields).length = fields.length := List.length_map _
  have hbase : alignUp baseEnd 16 = 176 := rfl
  have hwords : UInt32.size = 2 ^ 32 := rfl
  obtain ⟨ps, hps, htoNat⟩ := Word.exists_place? (.ofNat baseEnd) (appended fields)
    (show alignUp baseEnd 16 + _ < _ by omega)
  have hends : placedEnd baseEnd (ps.map Word.Placement.toNat) ≤ size fields := by
    rw [htoNat]
    exact le_alignUp _ (by decide)
  obtain ⟨stop, hstop, hstop'⟩ := Word.exists_placedEnd? (.ofNat baseEnd) ps
    (show placedEnd baseEnd _ < _ by omega)
  have htotal : alignUp stop.toNat structAlign = size fields := by
    rw [hstop', htoNat]
    rfl
  obtain ⟨n, hn, hn'⟩ := Word.exists_alignUp? stop (.ofNat structAlign) (by decide)
    (show alignUp stop.toNat structAlign < _ by omega)
  refine ⟨⟨ps, hps, htoNat⟩, n, ?_, hn'.trans htotal⟩
  simp [wordSize?, wordOffsets?, hps, hstop, hn]

/-! ## The struct in the source -/

def memberLine (m : String × Numeric) : String := s!"    {m.1}: {m.2.wgsl},\n"

def opening : String := "struct ObjectUniforms \x7b\n"

def closing : String := "\n\x7d;"

/-- The struct of the uniforms. -/
def text (fields : List ObjectField) : String :=
  opening ++ String.join ((members fields).map memberLine) ++ closing

/-- The lines of the base template that open the struct. -/
def openingLines : List String := [
  "struct ObjectUniforms \x7b",
  "    model: mat4x4<f32>,",
  "    normal_matrix: mat4x4<f32>,",
  "    base_color: vec4<f32>,",
  "    emissive: vec3<f32>,",
  "    metallic: f32,",
  "    roughness: f32,",
  ""]

theorem unlines_openingLines :
    Text.unlines openingLines = opening ++ String.join (baseFields.map memberLine) := by
  decide +kernel

theorem join_appended (fields : List ObjectField) :
    String.join ((appended fields).map memberLine) = Sections.perObjectUniforms fields := by
  rw [appended, List.map_map]
  exact congrArg String.join (List.map_congr_left fun u _ => rfl)

theorem text_eq (fields : List ObjectField) :
    text fields = Text.unlines openingLines ++ Sections.perObjectUniforms fields ++ closing := by
  rw [text, members, List.map_append, String.join_append, join_appended, unlines_openingLines]
  simp only [String.append_assoc]

/-- The literal before the appended fields ends with the opened struct, and the one after them closes it. -/
theorem baseSegments_split : ∃ before ls closing after, Template.baseSegments =
    before ++ [.literal (Text.unlines (ls ++ openingLines)), .marker .perObjectUniforms,
      .literal (Text.unlines ("" :: "\x7d;" :: "@group(1) @binding(0) var<uniform> u_object: ObjectUniforms;"
        :: closing))] ++ after :=
  ⟨[], [_, _, _, _, _, _, _, _, _, _, _, _, _, _, _, _, _, _], _, _, rfl⟩

theorem exists_text_in_base {sections : Sections}
    (h : sections .perObjectUniforms = Sections.perObjectUniforms fields) :
    ∃ before after, Segment.joinFilled sections Template.baseSegments =
      before ++ text fields ++ after := by
  obtain ⟨before, ls, closing, after, hsplit⟩ := baseSegments_split
  obtain ⟨start, stop, htext⟩ :=
    Template.exists_struct_in_base hsplit (by simp [openingLines]) (by simp) sections
  exact ⟨start, stop, by rw [htext, text_eq, h]; rfl⟩

end Uniforms

open Uniforms

/-- The object uniforms of a shader: the members of the struct, their lines in the source, and the places
that the layout rule gives them. -/
structure Shader.LaysOutUniforms (shader : Shader) (features : List Feature) : Prop where
  names_nodup : (memberNames shader.uniforms).Nodup
  required : ∀ f ∈ features, ∀ q ∈ f.resources, q.group = .perObject →
    ∃ type, q.kind = .uniform (.numeric type) ∧ (q.name, type) ∈ members shader.uniforms
  source : shader.sections features .perObjectUniforms =
    String.join ((appended shader.uniforms).map memberLine)
  names : (offsets shader.uniforms).map Placement.name = shader.uniforms.map ObjectField.name
  rule : LaidOut 0 (members shader.uniforms) (basePlaces ++ offsets shader.uniforms)
  align : IsGreatest {a | ∃ m ∈ members shader.uniforms, m.2.align = a} structAlign
  size : RoundsUp (placedEnd 0 (basePlaces ++ offsets shader.uniforms)) structAlign
    (Uniforms.size shader.uniforms)
  disjoint : (basePlaces ++ offsets shader.uniforms).Pairwise fun p q => p.stop ≤ q.offset

theorem Shader.laysOutUniforms {shader : Shader} {features : List Feature}
    (h : collect features = .ok ⟨shader.uniforms, shader.textures, shader.environment⟩) :
    shader.LaysOutUniforms features := by
  have happends : Appends (requirements features) shader.uniforms := appends_of_collect h
  have hrule : LaidOut 0 (members shader.uniforms) (places shader.uniforms) := by
    rw [places_eq]
    exact laidOut_place 0 _
  refine ⟨happends.names_nodup, ?required, (join_appended _).symm, ?names, hrule,
    isGreatest_structAlign _, ?size, hrule.disjoint⟩
  case required =>
    intro f hf q hq hgroup
    have hmem : (f, q) ∈ requirements features :=
      List.mem_flatMap.mpr ⟨f, hf, List.mem_map_of_mem hq⟩
    exact mem_members_of_required happends (collect_ok_iff.mp ⟨_, h⟩) hmem hgroup
  case names =>
    rw [offsets, map_name_place, List.map_map]
    rfl
  case size =>
    rw [← places, placedEnd_places]
    exact roundsUp_alignUp _ (by decide)

namespace Library

/-- The offsets of the appended fields are their places in the struct of all fields, and the size is that of
this struct. -/
theorem compose_laysOutUniforms (lib : Library) (ids : List String) (shader : Shader)
    (h : lib.compose ids = .ok shader) :
    ∃ features, lib.resolve ids = .ok features ∧
      lib.template.fill (shader.sections features) = .ok shader.source ∧
      (∀ engine : Template.Engine, engine.FillsBase → lib.template = .base engine →
        ∃ before after, shader.source = before ++ text shader.uniforms ++ after) ∧
      shader.LaysOutUniforms features ∧
      (shader.uniforms.length < 2 ^ 25 → FitWords shader.uniforms) := by
  obtain ⟨features, hres, hmade⟩ := exists_assembledFrom h
  refine ⟨features, hres, hmade.fill, ?base, Shader.laysOutUniforms hmade.bindings, fitWords⟩
  case base =>
    intro engine hengine hbase
    have hfill := hmade.fill
    rw [hbase, Template.fill_base hengine, Except.ok.injEq] at hfill
    rw [← hfill]
    exact exists_text_in_base rfl

/-- Fields of several alignments, one of them a base field, and one that the next feature requires again. -/
def sway : Feature :=
  { id := "sway", stage := .vertex
    resources := [.perObject "swayAmount" (.numeric .f32), .perObject "swayAxis" (.numeric .vec3),
      .perObject "roughness" (.numeric .f32), .perObject "swayFrame" (.numeric .mat3)] }

def gust : Feature :=
  { id := "gust", stage := .both, dependencies := ["sway"]
    resources := [.perObject "swayAmount" (.numeric .f32), .perObject "gustPhase" (.numeric .vec2)] }

def winds : Registry := ((Registry.empty.register sway).state.register gust).state

theorem compose_laysOutUniforms_gust :
    ∃ shader, (Marks.library winds).compose ["gust"] = .ok shader ∧
      (∃ before after, shader.source = before ++ text shader.uniforms ++ after) ∧
      shader.LaysOutUniforms [sway, gust] ∧ FitWords shader.uniforms ∧
      offsets shader.uniforms = [⟨"swayAmount", 164, 4⟩, ⟨"swayAxis", 176, 12⟩,
        ⟨"swayFrame", 192, 48⟩, ⟨"gustPhase", 240, 8⟩] ∧
      Uniforms.size shader.uniforms = 256 := by
  have hres : (Marks.library winds).resolve ["gust"] = .ok [sway, gust] := by decide +kernel
  have hplaces : ((Marks.library winds).resolve ["gust"] >>= collect).map (fun b =>
      (b.uniforms.length, offsets b.uniforms, Uniforms.size b.uniforms)) =
        .ok (4, [⟨"swayAmount", 164, 4⟩, ⟨"swayAxis", 176, 12⟩, ⟨"swayFrame", 192, 48⟩,
          ⟨"gustPhase", 240, 8⟩], 256) := by
    decide +kernel
  obtain ⟨shader, hshader, hbindings⟩ := compose_base_of_map Marks.fillsBase hplaces
  simp only [Prod.mk.injEq] at hbindings
  obtain ⟨hlength, hoffsets, hsize⟩ := hbindings
  obtain ⟨features, hfeatures, -, hsource, hlaid, hwords⟩ :=
    compose_laysOutUniforms (Marks.library winds) ["gust"] shader hshader
  obtain rfl : features = [sway, gust] := Except.ok.inj (hfeatures.symm.trans hres)
  exact ⟨shader, hshader, hsource Marks.engine Marks.fillsBase rfl, hlaid, hwords (by omega), hoffsets,
    hsize⟩

end Library

end ShaderWeave
