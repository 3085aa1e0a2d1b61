import ShaderWeave.Marks.Engine
import ShaderWeave.Proofs.Feature.Request
import ShaderWeave.Proofs.Feature.Resolution

/-!
# Composition and changes of a library

A composition is a function of the set of requested ids. It stays as it is when a feature is
registered that it does not use.
-/

namespace ShaderWeave

/-- The sections that the template is filled with for a shader of these features. -/
def Shader.sections (shader : Shader) (features : List Feature) : Sections :=
  Sections.generate features ⟨shader.uniforms, shader.textures, shader.environment⟩

/-- All that the shader has in it, from the features and the template. -/
structure Shader.AssembledFrom (shader : Shader) (template : Template) (key : RequestKey)
    (features : List Feature) : Prop where
  key : shader.key = key
  ids : shader.features = features.map Feature.id
  bindings : Bindings.collect features = .ok ⟨shader.uniforms, shader.textures, shader.environment⟩
  fill : template.fill (shader.sections features) = .ok shader.source
  digest : shader.digest = .ofText shader.source

namespace Library

variable {lib : Library} {ids : List String} {key : RequestKey} {features : List Feature}
  {shader : Shader} {f : Feature} {e : ShaderError}

/-! ## What is in a shader -/

theorem assemble_ok (h : lib.assemble key features = .ok shader) :
    shader.AssembledFrom lib.template key features := by
  unfold assemble at h
  split at h
  · simp at h
  · next hb =>
    split at h
    · simp at h
    · next hfill =>
      obtain rfl := Except.ok.inj h
      exact ⟨rfl, rfl, hb, hfill, rfl⟩

theorem assemble_error (h : lib.assemble key features = .error e) :
    Bindings.collect features = .error e ∨ ∃ cause, e = .template cause := by
  unfold assemble at h
  split at h
  · next hb =>
    obtain rfl := Except.error.inj h
    exact .inl hb
  · split at h
    · next cause _ => exact .inr ⟨cause, (Except.error.inj h).symm⟩
    · simp at h

theorem compose_ok (h : lib.compose ids = .ok shader) :
    ∃ features, lib.registry.resolve ids = .ok features ∧
      lib.assemble (.ofIds ids) features = .ok shader := by
  unfold compose at h
  split at h
  · simp at h
  · next features hres => exact ⟨features, hres, h⟩

theorem compose_of_resolve (h : lib.resolve ids = .ok features) :
    lib.compose ids = lib.assemble (.ofIds ids) features := by
  unfold compose
  rw [h]

theorem assembledFrom_of_compose (h : lib.compose ids = .ok shader)
    (hres : lib.resolve ids = .ok features) :
    shader.AssembledFrom lib.template (.ofIds ids) features :=
  assemble_ok (compose_of_resolve hres ▸ h)

theorem exists_assembledFrom (h : lib.compose ids = .ok shader) :
    ∃ features, lib.resolve ids = .ok features ∧
      shader.AssembledFrom lib.template (.ofIds ids) features := by
  obtain ⟨features, hres, ha⟩ := compose_ok h
  exact ⟨features, hres, assemble_ok ha⟩

theorem assemble_of_collect_error (h : Bindings.collect features = .error e) :
    lib.assemble key features = .error e := by
  unfold assemble
  rw [h]

theorem assemble_of_fill (lib : Library) (key : RequestKey) {b : Bindings} {source : String}
    (h : Bindings.collect features = .ok b)
    (hfill : lib.template.fill (Sections.generate features b) = .ok source) :
    ∃ shader, lib.assemble key features = .ok shader := by
  unfold assemble
  rw [h]
  simp only [hfill, Except.ok.injEq, exists_eq']

theorem key_of_compose (h : lib.compose ids = .ok shader) : shader.key = .ofIds ids := by
  obtain ⟨features, -, hmade⟩ := exists_assembledFrom h
  exact hmade.key

theorem digest_of_compose (h : lib.compose ids = .ok shader) :
    shader.digest = .ofText shader.source := by
  obtain ⟨features, -, hmade⟩ := exists_assembledFrom h
  exact hmade.digest

theorem isFeatureId_of_compose (h : lib.compose ids = .ok shader) :
    ∀ id ∈ ids, IsFeatureId id := by
  obtain ⟨features, hres, -⟩ := compose_ok h
  exact fun id hid => Registry.isFeatureId_of_resolve hres hid

/-! ## Requests with the same ids -/

theorem compose_congr {a b : List String} (h : canonicalIds a = canonicalIds b) :
    lib.compose a = lib.compose b := by
  simp only [compose, resolve, Registry.resolve, RequestKey.ofIds, h]

theorem compose_eq_of_ofIds_eq {a b : List String} (ha : ∀ id ∈ a, IsFeatureId id)
    (hb : ∀ id ∈ b, IsFeatureId id) (h : RequestKey.ofIds a = .ofIds b) :
    lib.compose a = lib.compose b :=
  compose_congr (RequestKey.canonicalIds_eq_of_ofIds_eq ha hb h)

theorem ids_key_of_compose (h : lib.compose ids = .ok shader) :
    shader.key.ids = canonicalIds ids := by
  rw [key_of_compose h]
  exact RequestKey.ids_ofIds (isFeatureId_of_compose h)

/-- A shader is what the ids of its key compose to. -/
theorem compose_ids_key (h : lib.compose ids = .ok shader) :
    lib.compose shader.key.ids = .ok shader := by
  rw [ids_key_of_compose h, ← h]
  exact compose_congr (canonicalIds_canonicalIds ids)

theorem mem_iff_of_key_eq {a b : List String} {s t : Shader} (hs : lib.compose a = .ok s)
    (ht : lib.compose b = .ok t) (h : s.key = t.key) (id : String) : id ∈ a ↔ id ∈ b := by
  have hids : canonicalIds a = canonicalIds b := by
    rw [← ids_key_of_compose hs, ← ids_key_of_compose ht, h]
  have hmem : id ∈ canonicalIds a ↔ id ∈ canonicalIds b := by rw [hids]
  simpa only [mem_canonicalIds] using hmem

/-! ## Requests with the same features -/

theorem digest_eq_of_assemble {key' : RequestKey} {s t : Shader}
    (hs : lib.assemble key features = .ok s) (ht : lib.assemble key' features = .ok t) :
    s.digest = t.digest := by
  replace hs := assemble_ok hs
  replace ht := assemble_ok ht
  have hsections : s.sections features = t.sections features :=
    congrArg (Sections.generate features) (Except.ok.inj (hs.bindings.symm.trans ht.bindings))
  have hsource : s.source = t.source :=
    Except.ok.inj (hs.fill.symm.trans (hsections ▸ ht.fill))
  rw [hs.digest, ht.digest, hsource]

/-- The source is made of the resolved features alone, whatever was requested. -/
theorem digest_eq_of_features_eq {a b : List String} {s t : Shader} (hs : lib.compose a = .ok s)
    (ht : lib.compose b = .ok t) (h : s.features = t.features) : s.digest = t.digest := by
  obtain ⟨fs, hfs, has⟩ := compose_ok hs
  obtain ⟨gs, hgs, hat⟩ := compose_ok ht
  rw [(assemble_ok has).ids, (assemble_ok hat).ids] at h
  obtain rfl : fs = gs := (Registry.visited_of_resolve hfs).ordered.eq_of_ids_eq
    (Registry.visited_of_resolve hgs).ordered h
  exact digest_eq_of_assemble has hat

/-- A request is the set of its ids: neither order nor repetition shows in its key or in what it
resolves and composes to, and the key of a shader gives the set back. -/
theorem request_canonical (lib : Library) (a b : List String) :
    ((∀ id, id ∈ a ↔ id ∈ b) →
      RequestKey.ofIds a = .ofIds b ∧ lib.resolve a = lib.resolve b ∧
        lib.compose a = lib.compose b) ∧
    (∀ s t, lib.compose a = .ok s → lib.compose b = .ok t →
      (s.key = t.key ↔ ∀ id, id ∈ a ↔ id ∈ b)) ∧
    ∀ s, lib.compose a = .ok s →
      s.key.ids.Pairwise (· < ·) ∧ ∀ id, id ∈ s.key.ids ↔ id ∈ a := by
  refine ⟨?same, ?keys, ?ids⟩
  case same =>
    intro h
    have hids := canonicalIds_congr h
    refine ⟨?_, ?_, compose_congr hids⟩
    · rw [RequestKey.ofIds, hids, ← RequestKey.ofIds]
    · simp only [resolve, Registry.resolve, hids]
  case keys =>
    intro s t hs ht
    constructor
    · intro hkey
      exact mem_iff_of_key_eq hs ht hkey
    · intro h
      rw [compose_congr (canonicalIds_congr h), ht, Except.ok.injEq] at hs
      rw [hs]
  case ids =>
    intro s hs
    rw [ids_key_of_compose hs]
    exact ⟨canonicalIds_sorted a, fun id => mem_canonicalIds⟩

/-! ## Changes of the library -/

@[simp]
theorem reload_state (lib : Library) : lib.reload.state = lib := by
  obtain ⟨registry, template⟩ := lib
  cases template <;> rfl

theorem register_ok {previous : Option Feature} (h : (lib.register f).result = .ok previous) :
    ∃ hf : IsFeatureId f.id,
      (lib.register f).state = { lib with registry := lib.registry.insert f hf } := by
  simp only [register, Registry.register] at h ⊢
  split at h
  · next hf => exact ⟨hf, by simp [hf]⟩
  · simp at h

theorem register_result (lib : Library) (h : IsFeatureId f.id) :
    (lib.register f).result = .ok (lib.registry.get? f.id) := by
  simp [register, Registry.register, h]

theorem register_failed {e : ShaderError} (h : (lib.register f).result = .error e) :
    (lib.register f).state = lib := by
  simp only [register, Registry.register] at h ⊢
  split at h
  · simp at h
  · next hf => simp [hf]

/-- Registering a feature that a shader does not have leaves its composition as it is. -/
theorem compose_register {previous : Option Feature} (h : lib.compose ids = .ok shader)
    (hreg : (lib.register f).result = .ok previous) (hnot : f.id ∉ shader.features) :
    (lib.register f).state.compose ids = .ok shader := by
  obtain ⟨hf, hstate⟩ := register_ok hreg
  obtain ⟨features, hres, ha⟩ := compose_ok h
  rw [(assemble_ok ha).ids] at hnot
  have hres' : (lib.registry.insert f hf).resolve ids = .ok features :=
    Registry.resolve_insert hres hf hnot
  simp only [hstate, compose, resolve, hres']
  exact ha

theorem get?_register_self (lib : Library) (h : IsFeatureId f.id) :
    (lib.register f).state.registry.get? f.id = some f := by
  simp [register, Registry.register, h, Registry.get?_insert]

theorem get?_register_of_ne {id : String} (lib : Library) (h : id ≠ f.id) :
    (lib.register f).state.registry.get? id = lib.registry.get? id := by
  by_cases hf : IsFeatureId f.id
  · simp [register, Registry.register, hf, Registry.get?_insert, h]
  · simp [register, Registry.register, hf]

/-- Requests for the id of `f` lead to `f`, and a composition that has a feature of that id was made
with `f` and no other feature of that id. -/
def ComposesWith (lib : Library) (f : Feature) : Prop :=
  ∀ ids shader, lib.compose ids = .ok shader →
    (f.id ∈ ids → f.id ∈ shader.features) ∧
    (f.id ∈ shader.features → ∃ features, lib.resolve ids = .ok features ∧ f ∈ features ∧
      (∀ g ∈ features, g.id = f.id → g = f) ∧ lib.assemble (.ofIds ids) features = .ok shader)

theorem composesWith_of_get? (h : lib.registry.get? f.id = some f) : lib.ComposesWith f := by
  intro ids shader hc
  obtain ⟨features, hres, ha⟩ := compose_ok hc
  have hvisited := Registry.visited_of_resolve hres
  have honly : ∀ g ∈ features, g.id = f.id → g = f := by
    intro g hg hid
    simpa [hid, h] using (hvisited.ordered.get? hg).symm
  rw [(assemble_ok ha).ids]
  refine ⟨?_, ?_⟩
  · intro hid
    exact hvisited.visited f.id (by simpa using hid)
  · intro hid
    obtain ⟨g, hg, hgid⟩ := List.mem_map.mp hid
    obtain rfl := honly g hg hgid
    exact ⟨features, hres, hg, honly, ha⟩

/-! ## Sources -/

/-- The sources that a request makes the library compose: one, or none if it fails. -/
def sources (lib : Library) (ids : List String) : List String :=
  match lib.compose ids with
  | .ok shader => [shader.source]
  | .error _ => []

/-- A library without features. The one place of its template is for functions. -/
def blank : Library :=
  ⟨.empty, .custom Marks.engine "/*\x7b\x7bFUNCTIONS\x7d\x7d*/" (by decide +kernel)⟩

end Library

end ShaderWeave
