import Mathlib.Data.List.Forall2
import Mathlib.Data.List.Induction
import ShaderWeave.Drawing.Resources
import ShaderWeave.Proofs.Shader.EnvironmentBindings

/-!
# What is supplied at draw time

Of the bindings of a shader, those are resolved that somebody supplies: for a texture the accessor that was
set last for its provider, for an environment binding the resource that was set last for its name, unless it
was removed since. A binding that is left out does not move the others: all keep their own index and name.
-/

namespace ShaderWeave

/-! ## The last of a key -/

section Last

universe u

variable {W : Type u} {key : W → String} {ws : List W} {k : String} {w x : W}

/-- The entry is the last one with the key. -/
def Last (key : W → String) (ws : List W) (k : String) (w : W) : Prop :=
  ∃ before after, ws = before ++ w :: after ∧ key w = k ∧ ∀ later ∈ after, key later ≠ k

theorem last_concat_iff : Last key (ws ++ [x]) k w ↔ if key x = k then w = x else Last key ws k w := by
  constructor
  · rintro ⟨before, after, hws, hkey, hafter⟩
    -- The entry at the end is `w` itself, or one of those after it.
    rcases List.eq_nil_or_concat' after with rfl | ⟨after, last, rfl⟩
    · obtain ⟨rfl, hx⟩ := List.append_inj' hws rfl
      obtain rfl := List.head_eq_of_cons_eq hx
      rw [if_pos hkey]
    · rw [← List.cons_append, ← List.append_assoc] at hws
      obtain ⟨rfl, hx⟩ := List.append_inj' hws rfl
      rw [if_neg (hafter x (by simp [List.head_eq_of_cons_eq hx]))]
      exact ⟨before, after, rfl, hkey, fun later hlater => hafter later (by simp [hlater])⟩
  · intro h
    split at h
    · next hx => exact ⟨ws, [], by rw [h], h ▸ hx, by simp⟩
    · next hx =>
      obtain ⟨before, after, rfl, hkey, hafter⟩ := h
      refine ⟨before, after ++ [x], by simp, hkey, ?_⟩
      intro later hlater
      rcases List.mem_append.mp hlater with hlater | hlater
      · exact hafter later hlater
      · rwa [List.mem_singleton.mp hlater]

variable {σ V : Type} {step : σ → W → σ} {value : W → Option V} {start : σ}

/-- Where a step sets the entry of its key and no other, a table has what the last step for a key set. -/
theorem look_foldl_iff (look : σ → String → Option V) (hstart : ∀ k, look start k = none)
    (hstep : ∀ s w k, look (step s w) k = if key w = k then value w else look s k) {v : V} :
    look (ws.foldl step start) k = some v ↔ ∃ w, Last key ws k w ∧ value w = some v := by
  induction ws using List.reverseRecOn with
  | nil => simp [hstart, Last]
  | append_singleton ws x ih =>
    rw [List.foldl_append, List.foldl_cons, List.foldl_nil, hstep]
    simp only [last_concat_iff]
    split
    · simp
    · exact ih

end Last

theorem lookup_filter_ne {V : Type} (table : List (String × V)) (name k : String) :
    (table.filter (·.1 != name)).lookup k = if name = k then none else table.lookup k := by
  induction table with
  | nil => simp
  | cons p table ih =>
    obtain ⟨key, v⟩ := p
    by_cases hkey : key = name
    · rw [List.filter_cons_of_neg (by simpa using hkey), ih]
      split
      · rfl
      · next hne => rw [List.lookup_cons, (beq_eq_false_iff_ne).mpr fun h => hne (h.trans hkey).symm]
    · rw [List.filter_cons_of_pos (by simpa using hkey), List.lookup_cons, List.lookup_cons, ih]
      split
      · next hk => rw [if_neg fun h => hkey ((beq_iff_eq.mp hk).symm.trans h.symm)]
      · rfl

theorem lookup_set {V : Type} (table : List (String × V)) (name : String) (v : V) (k : String) :
    ((name, v) :: table.filter (·.1 != name)).lookup k = if name = k then some v else table.lookup k := by
  rw [List.lookup_cons, lookup_filter_ne]
  by_cases h : name = k
  · simp [h]
  · rw [if_neg h, if_neg h, beq_eq_false_iff_ne.mpr (Ne.symm h)]

/-! ## Tables under a run of calls -/

namespace Providers

variable {E R : Type}

/-- A call that sets the accessor of a provider. -/
inductive Call (E R : Type) : Type 1
  | register (provider : String) (accessor : E → String → Option R)
  | registerComponent {C : Type} (provider : String) (component : E → Option C)
      (resource : C → String → Option R)

namespace Call

def provider : Call E R → String
  | register provider _ | registerComponent provider _ _ => provider

/-- The resource of an entity that the call makes available under a name. -/
def resource? (c : Call E R) (entity : E) (name : String) : Option R :=
  match c with
  | register _ accessor => accessor entity name
  | registerComponent _ component resource => (component entity).bind fun c => resource c name

def apply (p : Providers E R) : Call E R → Providers E R
  | register provider accessor => (p.register provider accessor).2
  | registerComponent provider component resource => (p.registerComponent provider component resource).2

theorem accessor?_register (p : Providers E R) (provider : String) (accessor : E → String → Option R)
    (k : String) : (p.register provider accessor).2.accessor? k =
      if provider = k then some accessor else p.accessor? k :=
  lookup_set p.accessors provider accessor k

theorem accessor?_apply (p : Providers E R) (c : Call E R) (k : String) :
    (apply p c).accessor? k = if c.provider = k then some c.resource? else p.accessor? k := by
  cases c with
  | register provider accessor => exact accessor?_register p provider accessor k
  | registerComponent provider component resource => exact accessor?_register p provider _ k

end Call

def after (calls : List (Call E R)) : Providers E R := calls.foldl Call.apply {}

/-- The last call for the provider of the binding gives the entity this resource for its name. -/
def Supplies (calls : List (Call E R)) (entity : E) (b : Binding) (resource : R) : Prop :=
  ∃ c, Last Call.provider calls b.provider c ∧ c.resource? entity b.name = some resource

theorem find?_after_iff {calls : List (Call E R)} {entity : E} {b : Binding} {resource : R} :
    (after calls).find? entity b = some resource ↔ Supplies calls entity b resource := by
  have haccessor (a : E → String → Option R) : (after calls).accessor? b.provider = some a ↔
      ∃ c, Last Call.provider calls b.provider c ∧ some c.resource? = some a :=
    look_foldl_iff accessor? (fun _ => rfl) Call.accessor?_apply
  simp [find?, Option.bind_eq_some_iff, haccessor, Supplies]

end Providers

namespace EnvironmentResources

variable {R : Type}

inductive Change (R : Type)
  | set (name : String) (resource : R)
  | remove (name : String)

namespace Change

def name : Change R → String
  | set name _ | remove name => name

/-- The resource that the name has after the change. -/
def resource? : Change R → Option R
  | set _ resource => some resource
  | remove _ => none

def apply (e : EnvironmentResources R) : Change R → EnvironmentResources R
  | set name resource => (e.set name resource).2
  | remove name => (e.remove name).2

theorem get?_apply (e : EnvironmentResources R) (c : Change R) (k : String) :
    (apply e c).get? k = if c.name = k then c.resource? else e.get? k := by
  cases c with
  | set name resource => exact lookup_set e.resources name resource k
  | remove name => exact lookup_filter_ne e.resources name k

end Change

def after (changes : List (Change R)) : EnvironmentResources R := changes.foldl Change.apply {}

/-- The last change of the name set this resource. -/
def Holds (changes : List (Change R)) (name : String) (resource : R) : Prop :=
  Last Change.name changes name (.set name resource)

theorem get?_after_iff {changes : List (Change R)} {name : String} {resource : R} :
    (after changes).get? name = some resource ↔ Holds changes name resource := by
  have hget : (after changes).get? name = some resource ↔
      ∃ c, Last Change.name changes name c ∧ c.resource? = some resource :=
    look_foldl_iff get? (fun _ => rfl) Change.get?_apply
  rw [hget]
  constructor
  · rintro ⟨c, hlast, hresource⟩
    cases c with
    | set n resource' =>
      obtain ⟨before, after, hchanges, rfl, hafter⟩ := hlast
      obtain rfl : resource' = resource := Option.some.inj hresource
      exact ⟨before, after, hchanges, rfl, hafter⟩
    | remove n => exact nomatch hresource
  · exact fun h => ⟨_, h, rfl⟩

end EnvironmentResources

/-! ## Resolved bindings -/

variable {R : Type}

/-- The resolved bindings are those of `bindings` that have a resource, in the same order and each under its own
index and name. -/
structure Resolves (bindings : List Binding) (supplied : Binding → R → Prop)
    (resolved : List (ResolvedBinding R)) : Prop where
  kept : ∃ kept, kept.Sublist bindings ∧ (∀ b ∈ bindings, b ∈ kept ↔ ∃ resource, supplied b resource) ∧
    List.Forall₂ (fun b r => r.index = b.index ∧ r.name = b.name ∧ supplied b r.resource) kept resolved
  ascending : resolved.Pairwise fun x y => x.index < y.index
  names_nodup : (resolved.map ResolvedBinding.name).Nodup

section Supply

open Bindings

variable {bindings : List Binding} {find : Binding → Option R} {supplied : Binding → R → Prop}

theorem forall₂_supply (find : Binding → Option R) (missing : Binding → Event) (bindings : List Binding) :
    List.Forall₂ (fun b r => r.index = b.index ∧ r.name = b.name ∧ find b = some r.resource)
      (bindings.filter fun b => (find b).isSome) (supply find missing bindings).1 := by
  rw [supply]
  induction bindings with
  | nil => exact .nil
  | cons b bindings ih =>
    cases hb : find b with
    | none => simpa [hb] using ih
    | some resource => simpa [hb] using ih

theorem map_eq_of_forall₂ {α : Type} {kept : List Binding} {resolved : List (ResolvedBinding R)}
    {f : ResolvedBinding R → α} {g : Binding → α} (h : List.Forall₂ (fun b r => f r = g b) kept resolved) :
    resolved.map f = kept.map g := by
  induction h with
  | nil => rfl
  | cons hhead _ ih => rw [List.map_cons, List.map_cons, hhead, ih]

theorem exists_binding_of_mem_supply {missing : Binding → Event} {r : ResolvedBinding R}
    (h : r ∈ (supply find missing bindings).1) : ∃ b ∈ bindings, r.index = b.index ∧ r.name = b.name := by
  obtain ⟨b, hb, hr⟩ := List.mem_filterMap.mp h
  obtain ⟨resource, -, rfl⟩ := Option.map_eq_some_iff.mp hr
  exact ⟨b, hb, rfl, rfl⟩

theorem ascending_of_indices (h : bindings.map Binding.index = List.range bindings.length) :
    Ascending bindings := by
  rw [Ascending, ← List.pairwise_map, h]
  exact List.pairwise_lt_range

theorem resolves_supply (hfind : ∀ b resource, find b = some resource ↔ supplied b resource)
    (missing : Binding → Event) (hascending : Ascending bindings)
    (hnames : (bindings.map Binding.name).Nodup) :
    Resolves bindings supplied (supply find missing bindings).1 := by
  have hkept := forall₂_supply find missing bindings
  have hsub : (bindings.filter fun b => (find b).isSome).Sublist bindings := List.filter_sublist
  refine ⟨⟨_, hsub, ?_, hkept.imp fun b r h => ⟨h.1, h.2.1, (hfind b _).mp h.2.2⟩⟩, ?ascending, ?names⟩
  · intro b hb
    simp [hb, Option.isSome_iff_exists, hfind]
  case ascending =>
    rw [← List.pairwise_map, map_eq_of_forall₂ (hkept.imp fun _ _ h => h.1), List.pairwise_map]
    exact hascending.sublist hsub
  case names =>
    rw [map_eq_of_forall₂ (hkept.imp fun _ _ h => h.2.1)]
    exact hnames.sublist (hsub.map _)

end Supply

/-- Each entry of the bind group has the index of a resolved binding and refers to its resource as a whole. -/
theorem forall₂_bindGroupEntries (resolved : List (ResolvedBinding DeviceResource)) :
    List.Forall₂ (fun r entry => entry.index = r.index ∧ entry.resource = r.resource.bound) resolved
      (bindGroupEntries resolved) := by
  rw [bindGroupEntries, List.forall₂_map_right_iff, List.forall₂_same]
  exact fun _ _ => ⟨rfl, rfl⟩

namespace Library

open Bindings

/-- The textures of a shader get what the last calls for their providers supply, and its environment the
resources that are set; nothing else is resolved. -/
theorem compose_resolves (lib : Library) (ids : List String) (shader : Shader)
    (h : lib.compose ids = .ok shader) {E R : Type} (calls : List (Providers.Call E R)) (entity : E)
    (changes : List (EnvironmentResources.Change R)) :
    Resolves shader.textures (Providers.Supplies calls entity)
        ((Providers.after calls).resolve entity shader.textures).1 ∧
      Resolves shader.environment (fun b => EnvironmentResources.Holds changes b.name)
        ((EnvironmentResources.after changes).resolve shader.environment).1 ∧
      (∀ r ∈ ((EnvironmentResources.after changes).resolve shader.environment).1,
        ∃ s ∈ Slot.table, s.name = r.name ∧ s.index = r.index) ∧
      ∀ resolved : List (ResolvedBinding DeviceResource),
        List.Forall₂ (fun r entry => entry.index = r.index ∧ entry.resource = r.resource.bound) resolved
          (bindGroupEntries resolved) := by
  obtain ⟨features, -, hmade⟩ := exists_assembledFrom h
  have hgathered := gathered_of_collect hmade.bindings
  refine ⟨?textures, ?environment, ?table, forall₂_bindGroupEntries⟩
  case textures =>
    exact resolves_supply (fun _ _ => Providers.find?_after_iff) _ (ascending_of_indices hgathered.indices)
      hgathered.textures.names_nodup
  case environment =>
    exact resolves_supply (fun _ _ => EnvironmentResources.get?_after_iff) _ (ascending_of_compose h)
      hgathered.environment.names_nodup
  case table =>
    intro r hr
    obtain ⟨b, hb, hindex, hname⟩ := exists_binding_of_mem_supply hr
    obtain ⟨s, hs, hsname, hsindex, -⟩ := tabled_of_compose h b hb
    exact ⟨s, hs, hsname.trans hname.symm, hsindex.trans hindex.symm⟩

/-- Moss has a picture from the weather and two from the material, and it is lit. -/
def moss : Feature where
  id := "moss"
  stage := .fragment
  resources := [.providedBy (.texture "mossBase" .float .d2) "material",
    .providedBy (.texture "mossRain" .float .d2) "weather",
    .providedBy (.sampler "mossSampler" .filtering) "material"] ++
      Catalogue.slots ["shadowMap", "brdfLut", "brdfSampler"]

/-- An entity here is the resources of its material, if it has one. The accessor for the weather is set
twice, the second time to one without a picture of rain. -/
def mossCalls : List (Providers.Call (Option (List (String × DeviceResource))) DeviceResource) := [
  .register "weather" fun _ _ => some .textureView,
  .registerComponent "material" id fun maps name => maps.lookup name,
  .register "weather" fun _ name => if name = "clouds" then some .textureView else none]

/-- The table for reflections is removed, and the map of shadows is removed and set again. -/
def mossChanges : List (EnvironmentResources.Change DeviceResource) := [
  .set "shadowMap" .sampler, .set "brdfLut" .textureView, .remove "shadowMap", .set "brdfSampler" .sampler,
  .set "shadowMap" .textureView, .remove "brdfLut"]

theorem compose_resolves_moss :
    ∃ shader, (Marks.library (Registry.empty.register moss).state).compose ["moss"] = .ok shader ∧
      Resolves shader.textures
        (Providers.Supplies mossCalls (some [("mossSampler", .sampler), ("mossBase", .buffer 16)]))
        [⟨0, "mossBase", .buffer 16⟩, ⟨2, "mossSampler", .sampler⟩] ∧
      Resolves shader.environment (fun b => EnvironmentResources.Holds mossChanges b.name)
        [⟨0, "shadowMap", .textureView⟩, ⟨8, "brdfSampler", .sampler⟩] ∧
      bindGroupEntries [⟨0, "mossBase", .buffer 16⟩, ⟨2, "mossSampler", .sampler⟩] =
        [⟨0, .buffer 0 none⟩, ⟨2, .sampler⟩] := by
  have hresolved : ((Marks.library (Registry.empty.register moss).state).resolve ["moss"] >>=
      collect).map (fun b => (
        ((Providers.after mossCalls).resolve (some [("mossSampler", .sampler), ("mossBase", .buffer 16)])
          b.textures).1,
        ((EnvironmentResources.after mossChanges).resolve b.environment).1)) = .ok
      ([⟨0, "mossBase", .buffer 16⟩, ⟨2, "mossSampler", .sampler⟩],
        [⟨0, "shadowMap", .textureView⟩, ⟨8, "brdfSampler", .sampler⟩]) := by
    decide +kernel
  obtain ⟨shader, hshader, hpair⟩ := compose_base_of_map Marks.fillsBase hresolved
  obtain ⟨htextures, henvironment⟩ := Prod.mk.inj hpair
  have hresolves := compose_resolves _ _ shader hshader mossCalls
    (some [("mossSampler", .sampler), ("mossBase", .buffer 16)]) mossChanges
  rw [htextures, henvironment] at hresolves
  exact ⟨shader, hshader, hresolves.1, hresolves.2.1, rfl⟩

end Library

end ShaderWeave
