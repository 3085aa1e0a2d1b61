import ShaderWeave.Proofs.Shader.Compatibility
import ShaderWeave.Proofs.Shader.Varyings

/-!
# Fragment slots

Each of three slots takes the fragment body of one feature, its owner. The features write their slots one
after another, the later over the earlier, but no id is there twice, so nothing is ever written over. The
fragment bodies of all other features are not read.
-/

namespace ShaderWeave

open Text

/-! ## Writing the slots -/

namespace Sections

variable {slots : Sections} {owner : String} {slot : Marker} {f : Feature} {features : List Feature}

theorem owner_unique : ∀ p ∈ slotOwners, ∀ p' ∈ slotOwners, p.2 = p'.2 → p = p' := by decide

theorem mem_slotOwners_of_lookup {id : String} (h : slotOwners.lookup id = some slot) :
    (id, slot) ∈ slotOwners := by
  obtain ⟨before, after, hsplit, -⟩ := List.lookup_eq_some_iff.mp h
  rw [hsplit]
  simp

theorem writeSlot_of_owner (h : slotOwners.lookup f.id = some slot) {source : String}
    (hsource : f.fragment = some source) : writeSlot slots f slot = indentBody (tagged f.id source) := by
  simp [writeSlot, h, hsource]

theorem writeSlot_of_not_owner (h : slotOwners.lookup owner = some slot)
    (hf : f.id = owner → f.fragment = none) : writeSlot slots f slot = slots slot := by
  unfold writeSlot
  cases hsource : f.fragment with
  | none => rfl
  | some source =>
    cases hwritten : slotOwners.lookup f.id with
    | none => rfl
    | some written =>
      apply if_neg
      rintro rfl
      have howner := owner_unique _ (mem_slotOwners_of_lookup hwritten) _ (mem_slotOwners_of_lookup h) rfl
      simp [hf (congrArg Prod.fst howner)] at hsource

theorem foldl_writeSlot_of_not_owner (h : slotOwners.lookup owner = some slot)
    (hnone : ∀ f ∈ features, f.id = owner → f.fragment = none) :
    features.foldl writeSlot slots slot = slots slot := by
  induction features generalizing slots with
  | nil => rfl
  | cons f features ih =>
    rw [List.foldl_cons, ih fun g hg => hnone g (by simp [hg])]
    exact writeSlot_of_not_owner h (hnone f (by simp))

/-- The slot holds the body that the feature of this id has, under its tag, and nothing if there is no
such feature or it has no body. -/
def HoldsBodyOf (slots : Sections) (slot : Marker) (owner : String) (features : List Feature) : Prop :=
  (∀ f ∈ features, f.id = owner → ∀ source, f.fragment = some source →
    slots slot = indentBody (tag owner ++ trim source)) ∧
  ((∀ f ∈ features, f.id = owner → f.fragment = none) → slots slot = "")

theorem fragmentSlots_holdsBodyOf (h : slotOwners.lookup owner = some slot)
    (hnodup : (features.map Feature.id).Nodup) :
    (fragmentSlots features).HoldsBodyOf slot owner features := by
  refine ⟨?_, fun hnone => foldl_writeSlot_of_not_owner h hnone⟩
  intro f hf hid source hsource
  obtain ⟨before, after, rfl⟩ := List.append_of_mem hf
  subst hid
  -- After `f` has written, no feature of its id is left to write over it.
  have hafter : ∀ g ∈ after, g.id = f.id → g.fragment = none := by
    intro g hg hgid
    rw [List.map_append, List.map_cons] at hnodup
    have hfresh := (List.nodup_cons.mp (List.nodup_append.mp hnodup).2.1).1
    exact absurd (List.mem_map.mpr ⟨g, hg, hgid⟩) hfresh
  rw [fragmentSlots, List.foldl_append, List.foldl_cons, foldl_writeSlot_of_not_owner h hafter]
  exact writeSlot_of_owner h hsource

end Sections

/-! ## Changes that a resolution does not see -/

namespace Registry

variable {r r' : Registry} {g : Feature → Feature}

theorem visitAll_map {path : List String} {requiredBy : Option String} {ids : List String}
    (h : ∀ id ∈ ids, ∀ found, r'.visit path requiredBy (found.map g) id =
      (r.visit path requiredBy found id).map (List.map g)) (found : List Feature) :
    r'.visitAll path requiredBy (found.map g) ids =
      (r.visitAll path requiredBy found ids).map (List.map g) := by
  induction ids generalizing found with
  | nil => rfl
  | cons id ids ih =>
    rw [visitAll_cons, visitAll_cons, h id (by simp)]
    cases r.visit path requiredBy found id with
    | error e => rfl
    | ok found => exact ih (fun x hx => h x (by simp [hx])) found

variable (hid : ∀ f, (g f).id = f.id) (hdeps : ∀ f, (g f).dependencies = f.dependencies)
  (hget : ∀ id, r'.get? id = (r.get? id).map g)

include hid hdeps hget

theorem visit_map (path : List String) (requiredBy : Option String) (found : List Feature)
    (id : String) : r'.visit path requiredBy (found.map g) id =
      (r.visit path requiredBy found id).map (List.map g) := by
  have hids (found : List Feature) : (found.map g).map Feature.id = found.map Feature.id := by
    simp [Function.comp_def, hid]
  induction path, requiredBy, found, id using visit_induction (r := r) with
  | onPath path requiredBy found id hp =>
    rw [visit_of_mem_path hp, visit_of_mem_path hp]
    rfl
  | known path requiredBy found id hp hf =>
    rw [visit_of_found hp hf, visit_of_found hp (by rwa [hids])]
    rfl
  | unregistered path requiredBy found id hp hf hnone =>
    have hnone' : r'.get? id = none := by rw [hget, hnone, Option.map_none]
    rw [visit_of_unregistered hp hf hnone, visit_of_unregistered hp (by rwa [hids]) hnone']
    rfl
  | registered path requiredBy found id f hp hf hsome ih =>
    have hsome' : r'.get? id = some (g f) := by rw [hget, hsome, Option.map_some]
    rw [visit_of_registered hp hf hsome, visit_of_registered hp (by rwa [hids]) hsome', hdeps,
      visitAll_map fun d _ found => ih found d]
    cases r.visitAll (path ++ [id]) (some id) found f.dependencies <;> simp [Except.map]

/-- Declarations that keep their ids and dependencies resolve as before. -/
theorem resolve_map (ids : List String) :
    r'.resolve ids = (r.resolve ids).map (List.map g) := by
  rw [resolve_eq_visitAll, resolve_eq_visitAll]
  exact visitAll_map (fun id _ found => visit_map hid hdeps hget [] none found id) []

end Registry

/-! ## Other bodies -/

/-- The feature with another fragment body, unless it owns a slot. -/
def Feature.withBody (body : Feature → Option String) (f : Feature) : Feature :=
  if f.id = "textured" ∨ f.id = "shadow" ∨ f.id = "ibl" then f else { f with fragment := body f }

variable {body : Feature → Option String} {f : Feature} {features : List Feature}

namespace Feature

theorem withBody_eq : f.withBody body = { f with fragment := (f.withBody body).fragment } := by
  unfold withBody
  split <;> rfl

@[simp]
theorem withBody_id : (f.withBody body).id = f.id := by rw [withBody_eq]

@[simp]
theorem withBody_resources : (f.withBody body).resources = f.resources := by rw [withBody_eq]

@[simp]
theorem withBody_varyings : (f.withBody body).varyings = f.varyings := by rw [withBody_eq]

@[simp]
theorem withBody_dependencies : (f.withBody body).dependencies = f.dependencies := by rw [withBody_eq]

end Feature

namespace Bindings

theorem addAll_withBody (b : Bindings) (reqs : List (Feature × Requirement)) :
    b.addAll (reqs.map fun p => (p.1.withBody body, p.2)) = b.addAll reqs := by
  induction reqs generalizing b with
  | nil => rfl
  | cons p reqs ih =>
    obtain ⟨f, q⟩ := p
    have hadd : b.add (f.withBody body) q = b.add f q := by
      rw [Feature.withBody_eq]
      rfl
    rw [List.map_cons, addAll, addAll, hadd]
    split
    · rfl
    · exact ih _

theorem collect_withBody : collect (features.map (Feature.withBody body)) = collect features := by
  have hrequirements : requirements (features.map (Feature.withBody body)) =
      (requirements features).map fun p => (p.1.withBody body, p.2) := by
    simp [requirements, List.flatMap_map, List.map_flatMap, Function.comp_def]
  rw [collect, hrequirements]
  exact addAll_withBody {} _

end Bindings

namespace Sections

theorem writeSlot_withBody (slots : Sections) :
    writeSlot slots (f.withBody body) = writeSlot slots f := by
  by_cases howner : f.id = "textured" ∨ f.id = "shadow" ∨ f.id = "ibl"
  · rw [Feature.withBody, if_pos howner]
  · -- A feature without a slot leaves all slots as they are, whatever its body.
    have hlookup : slotOwners.lookup f.id = none := by
      rw [List.lookup_eq_none_iff]
      simpa [slotOwners, not_or] using howner
    simp [writeSlot, hlookup]

theorem body_withBody (piece : Feature → Option String)
    (h : ∀ f : Feature, piece (f.withBody body) = piece f) :
    Sections.body piece (features.map (Feature.withBody body)) = Sections.body piece features := by
  simp [Sections.body, List.filterMap_map, h]

theorem fragmentSlots_withBody :
    fragmentSlots (features.map (Feature.withBody body)) = fragmentSlots features := by
  simp only [fragmentSlots, List.foldl_map, writeSlot_withBody]

theorem generate_withBody (b : Bindings) :
    generate (features.map (Feature.withBody body)) b = generate features b := by
  funext m
  cases m with
  | perObjectUniforms | textureBindings | environmentBindings => rfl
  | varyings =>
    have hvaryings : declaredVaryings (features.map (Feature.withBody body)) = declaredVaryings features := by
      simp [declaredVaryings, List.flatMap_map, Feature.withBody_varyings]
    simp only [generate, varyings_eq, hvaryings]
  | functions =>
    have hfunctions (f : Feature) : (f.withBody body).functions = f.functions := by
      rw [Feature.withBody_eq]
    simp [generate, functions, List.filter_map, Function.comp_def, hfunctions]
  | vertexInject => exact body_withBody _ fun f => by rw [Feature.withBody_eq]
  | fragmentPreLighting => exact body_withBody _ fun f => by rw [Feature.withBody_eq]
  | fragmentPost => exact body_withBody _ fun f => by rw [Feature.withBody_eq]
  | fragmentTextureSampling => exact congrFun fragmentSlots_withBody _
  | fragmentShadow => exact congrFun fragmentSlots_withBody _
  | fragmentAmbient => exact congrFun fragmentSlots_withBody _

end Sections

namespace Library

open Sections

theorem compose_withBody {r r' : Registry}
    (h : ∀ id, r'.get? id = (r.get? id).map (Feature.withBody body)) (template : Template)
    (ids : List String) :
    (Library.mk r' template).compose ids = (Library.mk r template).compose ids := by
  have hresolve : (Library.mk r' template).resolve ids =
      ((Library.mk r template).resolve ids).map (List.map (Feature.withBody body)) :=
    Registry.resolve_map (fun _ => Feature.withBody_id) (fun _ => Feature.withBody_dependencies) h ids
  unfold compose
  rw [hresolve]
  cases (Library.mk r template).resolve ids with
  | error e => rfl
  | ok features =>
    simp only [Except.map, assemble, Bindings.collect_withBody, generate_withBody, List.map_map]
    simp only [Function.comp_def, Feature.withBody_id]

/-- No composition reads the fragment body of a feature that owns no slot, and each slot holds the body of
its owner. -/
theorem fragment_bodies_of_owners (r : Registry) (template : Template) (ids : List String) :
    (∀ (body : Feature → Option String) (r' : Registry),
      (∀ id, r'.get? id = (r.get? id).map (Feature.withBody body)) →
      (Library.mk r' template).compose ids = (Library.mk r template).compose ids) ∧
    ∀ shader, (Library.mk r template).compose ids = .ok shader →
      ∃ features, (Library.mk r template).resolve ids = .ok features ∧
        template.fill (shader.sections features) = .ok shader.source ∧
        (shader.sections features).HoldsBodyOf .fragmentTextureSampling "textured" features ∧
        (shader.sections features).HoldsBodyOf .fragmentShadow "shadow" features ∧
        (shader.sections features).HoldsBodyOf .fragmentAmbient "ibl" features := by
  refine ⟨fun body r' h => compose_withBody h template ids, ?_⟩
  intro shader hshader
  obtain ⟨features, hres, hmade⟩ := exists_assembledFrom hshader
  have hnodup := (Registry.visited_of_resolve hres).ordered.nodup
  refine ⟨features, hres, hmade.fill, ?_, ?_, ?_⟩
  · exact fragmentSlots_holdsBodyOf (by decide) hnodup
  · exact fragmentSlots_holdsBodyOf (by decide) hnodup
  · exact fragmentSlots_holdsBodyOf (by decide) hnodup

def lamp : Feature :=
  { id := "ibl", stage := .fragment, fragment := some " ambient = vec3<f32>(0.2);\n" }

def intruder (body : Option String) : Feature :=
  { id := "intruder", stage := .fragment, fragment := body, dependencies := ["ibl"] }

def lit (body : Option String) : Registry :=
  ((Registry.empty.register lamp).state.register (intruder body)).state

theorem get?_lit (body : Option String) (id : String) :
    (lit body).get? id =
      if id = "intruder" then some (intruder body) else if id = "ibl" then some lamp else none := by
  have hlamp : IsFeatureId lamp.id := by decide
  have hintruder : IsFeatureId (intruder body).id := show IsFeatureId "intruder" by decide
  simp only [lit, Registry.register, hlamp, hintruder, dif_pos, Registry.get?_insert]
  rfl

theorem fragment_bodies_of_owners_intruder :
    (Marks.library (lit none)).compose ["intruder"] =
      (Marks.library (lit (some "ambient = vec3<f32>(9.0);"))).compose ["intruder"] ∧
    ∃ shader features, (Marks.library (lit none)).compose ["intruder"] = .ok shader ∧
      (Marks.library (lit none)).resolve ["intruder"] = .ok features ∧
      shader.sections features .fragmentAmbient = "// feature: ibl\n    ambient = vec3<f32>(0.2);" := by
  have hres : (Marks.library (lit none)).resolve ["intruder"] = .ok [lamp, intruder none] := by
    decide +kernel
  obtain ⟨shader, hshader, -⟩ := compose_base_of_collect Marks.fillsBase hres rfl
  constructor
  · refine (fragment_bodies_of_owners _ (.base Marks.engine) ["intruder"]).1 (fun _ => none) (lit none) ?_
    intro id
    rw [get?_lit, get?_lit]
    split
    · rfl
    · split <;> rfl
  · obtain ⟨features, hfeatures, -, -, -, hambient⟩ :=
      (fragment_bodies_of_owners (lit none) (.base Marks.engine) ["intruder"]).2 shader hshader
    obtain rfl : features = [lamp, intruder none] := Except.ok.inj (hfeatures.symm.trans hres)
    refine ⟨shader, _, hshader, hres, ?_⟩
    exact (hambient.1 lamp (by simp) rfl _ rfl).trans (by decide +kernel)

end Library

end ShaderWeave
