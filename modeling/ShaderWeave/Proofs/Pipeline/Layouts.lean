import ShaderWeave.Proofs.Environment.Ledger
import ShaderWeave.Proofs.Pipeline.Containment

/-!
# What a pipeline is bound against

The layouts of a new pipeline come from the host or get rows in the ledger. From the rows of two
pipelines one reads off which layouts they share. A call builds one pipeline or makes no layout
at all.
-/

namespace ShaderWeave

/-- The device made the layouts of the host before. -/
structure HostLayouts.MadeBy (host : HostLayouts) (d : Device) : Prop where
  global : host.global.id < d.nextId
  object : host.object.id < d.nextId
  textures : host.textures.id < d.nextId

namespace BuiltPipeline

/-- The pipeline is bound against the layouts of the entry, of which it has two or three from the host. -/
structure Bound (host : HostLayouts) (e : BuiltPipeline) : Prop where
  groups : e.pipelineLayout.groups =
    #v[host.global.id, host.object.id, e.texturesLayout.id, e.environmentLayout.id]
  layout : e.pipeline.layout = e.pipelineLayout.id
  textures_iff : e.texturesLayout.id = host.textures.id ↔ e.variant.shader.textures ≠ []
  textures : e.variant.shader.textures ≠ [] → e.texturesLayout = host.textures
  noTextures : e.variant.shader.textures = [] → e.texturesLayout.entries = []
  noEnvironment : e.mask = .empty → e.environmentLayout.entries = []

/-- The rows for the layouts that were made when the entry was built. -/
def made (e : BuiltPipeline) (period : Nat) (env : MaskLayouts) : Ledger :=
  (if e.variant.shader.textures = [] then [⟨.noTextures e.pipeline.id, e.texturesLayout⟩] else []) ++
    if e.mask = .empty then [⟨.noEnvironment e.pipeline.id, e.environmentLayout⟩]
    else env.made period e.mask e.environmentLayout

theorem purpose_of_mem_made {e : BuiltPipeline} {period : Nat} {env : MaskLayouts} {r : Made}
    (hr : r ∈ e.made period env) : r.purpose.pipeline? = some e.pipeline.id ∨
      r.purpose = .mask period e.mask ∧ env.get? e.mask = none := by
  unfold made at hr
  rcases List.mem_append.mp hr with hr | hr
  · split at hr
    · rw [List.mem_singleton.mp hr]
      exact .inl rfl
    · simp at hr
  · split at hr
    · rw [List.mem_singleton.mp hr]
      exact .inl rfl
    · obtain ⟨rfl, hmissing⟩ := MaskLayouts.mem_made_iff.mp hr
      exact .inr ⟨rfl, hmissing⟩

theorem purposes_nodup_made (e : BuiltPipeline) (period : Nat) (env : MaskLayouts) :
    ((e.made period env).map Made.purpose).Nodup := by
  unfold made MaskLayouts.made
  split <;> split <;> try split
  all_goals simp

end BuiltPipeline

/-- A pipeline and the period that it was built in. -/
structure Build where
  period : Nat
  entry : BuiltPipeline
  deriving DecidableEq

namespace Build

/-- Which layouts one pipeline has in common with another. -/
structure Shares (a b : Build) : Prop where
  noTextures : a.entry.variant.shader.textures = [] →
    a.entry.texturesLayout.id ∉ b.entry.pipelineLayout.groups
  noEnvironment : a.entry.mask = .empty →
    a.entry.environmentLayout.id ∉ b.entry.pipelineLayout.groups
  shared : a.entry.mask ≠ .empty → a.entry.mask = b.entry.mask → a.period = b.period →
    a.entry.environmentLayout = b.entry.environmentLayout
  apart : a.entry.mask ≠ b.entry.mask ∨ a.period ≠ b.period →
    a.entry.environmentLayout.id ≠ b.entry.environmentLayout.id

/-- What the layout of group 3 was made for. -/
def purpose (b : Build) : Purpose :=
  if b.entry.mask = .empty then .noEnvironment b.entry.pipeline.id else .mask b.period b.entry.mask

/-- The layouts of the entry come from the host or have rows in the ledger. -/
structure Entered (host : HostLayouts) (ledger : Ledger) (b : Build) : Prop where
  groups : b.entry.pipelineLayout.groups =
    #v[host.global.id, host.object.id, b.entry.texturesLayout.id, b.entry.environmentLayout.id]
  layout : b.entry.pipeline.layout = b.entry.pipelineLayout.id
  textures : b.entry.variant.shader.textures ≠ [] → b.entry.texturesLayout = host.textures
  noTextures : b.entry.variant.shader.textures = [] →
    ⟨.noTextures b.entry.pipeline.id, b.entry.texturesLayout⟩ ∈ ledger ∧
      b.entry.texturesLayout.entries = []
  environment : ⟨b.purpose, b.entry.environmentLayout⟩ ∈ ledger
  noEnvironment : b.entry.mask = .empty → b.entry.environmentLayout.entries = []

namespace Entered

variable {host : HostLayouts} {ledger : Ledger} {period : Nat} {d d' : Device} {r : Made}
  {a b : Build}

theorem append (h : b.Entered host ledger) (rows : Ledger) : b.Entered host (ledger ++ rows) where
  groups := h.groups
  layout := h.layout
  textures := h.textures
  noTextures hnone := ⟨List.mem_append_left _ (h.noTextures hnone).1, (h.noTextures hnone).2⟩
  environment := List.mem_append_left _ h.environment
  noEnvironment := h.noEnvironment

theorem bound (h : b.Entered host ledger) (hledger : ledger.Sound d.nextId d' period)
    (hhost : host.MadeBy d) : b.entry.Bound host where
  groups := h.groups
  layout := h.layout
  textures_iff := by
    constructor
    · intro hid hnone
      have hge := hledger.numbers_ge _ (h.noTextures hnone).1
      have hlt := hhost.textures
      simp only at hge
      omega
    · intro hsome
      rw [h.textures hsome]
  textures := h.textures
  noTextures hnone := (h.noTextures hnone).2
  noEnvironment := h.noEnvironment

theorem pipeline?_purpose_ne {n : Nat} (hne : n ≠ b.entry.pipeline.id) :
    b.purpose.pipeline? ≠ some n := by
  unfold purpose
  split
  · simpa [Purpose.pipeline?] using hne.symm
  · simp [Purpose.pipeline?]

theorem number_notMem_groups {n : Nat} (h : b.Entered host ledger)
    (hledger : ledger.Sound d.nextId d' period) (hhost : host.MadeBy d) (hr : r ∈ ledger)
    (hn : r.purpose.pipeline? = some n) (hne : n ≠ b.entry.pipeline.id) :
    r.layout.id ∉ b.entry.pipelineLayout.groups := by
  have hge := hledger.numbers_ge r hr
  have hglobal := hhost.global
  have hobject := hhost.object
  have htextures : r.layout.id ≠ b.entry.texturesLayout.id := by
    intro he
    by_cases hnone : b.entry.variant.shader.textures = []
    · have hrow := hledger.eq_of_number hr (h.noTextures hnone).1 he
      subst hrow
      exact hne (Option.some.inj hn).symm
    · rw [h.textures hnone] at he
      have hlt := hhost.textures
      omega
  have henvironment : r.layout.id ≠ b.entry.environmentLayout.id := by
    intro he
    have hrow := hledger.eq_of_number hr h.environment he
    subst hrow
    exact pipeline?_purpose_ne hne hn
  rw [h.groups]
  simp only [Vector.mem_mk, List.mem_toArray, List.mem_cons, List.not_mem_nil, or_false, not_or]
  exact ⟨by omega, by omega, htextures, henvironment⟩

theorem shares (ha : a.Entered host ledger) (hb : b.Entered host ledger)
    (hledger : ledger.Sound d.nextId d' period) (hhost : host.MadeBy d)
    (hne : a.entry.pipeline.id ≠ b.entry.pipeline.id) : a.Shares b where
  noTextures hnone := hb.number_notMem_groups hledger hhost (ha.noTextures hnone).1 rfl hne
  noEnvironment hnone :=
    hb.number_notMem_groups hledger hhost ha.environment (by simp [purpose, hnone, Purpose.pipeline?])
      hne
  shared hsome hmask hperiod := by
    have hpurpose : a.purpose = b.purpose := by
      simp [purpose, hmask ▸ hsome, hmask, hperiod]
    have hrow := hledger.eq_of_purpose ha.environment hb.environment hpurpose
    exact congrArg Made.layout hrow
  apart := by
    intro hdiffer hid
    have hrow := hledger.eq_of_number ha.environment hb.environment hid
    have hpurpose : a.purpose = b.purpose := congrArg Made.purpose hrow
    unfold purpose at hpurpose
    split at hpurpose <;> split at hpurpose
    · exact hne (by simpa using hpurpose)
    · simp at hpurpose
    · simp at hpurpose
    · simp only [Purpose.mask.injEq] at hpurpose
      exact hdiffer.elim (fun h => h hpurpose.2) fun h => h hpurpose.1

end Entered

end Build

namespace PipelineStore

variable {s : PipelineStore} {env : MaskLayouts} {d : Device} {v : Variant} {cull : CullMode}
  {ledger : Ledger} {period : Nat}

/-! ## Building -/

theorem texturesLayout_of_some (host : HostLayouts) (d : Device) {shader : Shader}
    (h : shader.textures ≠ []) : (texturesLayout host d shader).1 = host.textures := by
  simp [texturesLayout, Shader.hasTextures, h]

theorem texturesLayout_of_none (host : HostLayouts) (d : Device) {shader : Shader}
    (h : shader.textures = []) : (texturesLayout host d shader).1.entries = [] := by
  simp [texturesLayout, Shader.hasTextures, h, Device.createBindGroupLayout]

theorem environmentLayout_of_none (env : MaskLayouts) (d : Device) {shader : Shader}
    (h : shader.capabilityMask = .empty) : (environmentLayout env d shader).result.entries = [] := by
  simp [environmentLayout, Mask.isEmpty, h, Device.createBindGroupLayout]

theorem environmentLayout_of_some (env : MaskLayouts) (d : Device) {shader : Shader}
    (h : shader.capabilityMask ≠ .empty) :
    (environmentLayout env d shader).state.1.get? shader.capabilityMask =
      some (environmentLayout env d shader).result := by
  simp [environmentLayout, Mask.isEmpty, h, MaskLayouts.get?_layoutFor]

theorem texturesLayout_makes (host : HostLayouts) (d : Device) (shader : Shader) (n : Nat) :
    d.Makes (if shader.textures = [] then [⟨.noTextures n, (texturesLayout host d shader).1⟩] else [])
      (texturesLayout host d shader).2 := by
  unfold texturesLayout
  by_cases h : shader.textures = []
  · simpa [Shader.hasTextures, h] using Device.Makes.one d _ _ _
  · simpa [Shader.hasTextures, h] using Device.Makes.nil d

theorem environmentLayout_makes (env : MaskLayouts) (d : Device) (shader : Shader) (n period : Nat) :
    d.Makes (if shader.capabilityMask = .empty
        then [⟨.noEnvironment n, (environmentLayout env d shader).result⟩]
        else env.made period shader.capabilityMask (environmentLayout env d shader).result)
      (environmentLayout env d shader).state.2 := by
  unfold environmentLayout
  by_cases h : shader.capabilityMask = .empty
  · simpa [Mask.isEmpty, h] using Device.Makes.one d _ _ _
  · simpa [Mask.isEmpty, h] using env.layoutFor_makes d shader.capabilityMask period

/-- Building a pipeline makes the layouts of its rows, then the pipeline layout and the pipeline. -/
theorem build_makes (s : PipelineStore) (env : MaskLayouts) (d : Device) (v : Variant)
    (cull : CullMode) (period : Nat) :
    ∃ d', d.Makes ((s.build env d v cull).result.made period env) d' ∧
      (s.build env d v cull).result.pipeline.id = d'.nextId + 1 ∧
      (s.build env d v cull).state.2 = d'.also { pipelineLayouts := 1, renderPipelines := 1 } := by
  have htextures := texturesLayout_makes s.host d v.shader (s.build env d v cull).result.pipeline.id
  have henvironment := environmentLayout_makes env (texturesLayout s.host d v.shader).2 v.shader
    (s.build env d v cull).result.pipeline.id period
  refine ⟨_, htextures.append henvironment, ?_, rfl⟩
  simp only [build, Device.createPipelineLayout, Device.createRenderPipeline, Device.nextId,
    CallCounts.total]
  omega

theorem tables_environmentLayout (h : ledger.Tables period env) (d : Device) (shader : Shader)
    (n : Nat) :
    Ledger.Tables (ledger ++ if shader.capabilityMask = .empty
        then [⟨.noEnvironment n, (environmentLayout env d shader).result⟩]
        else env.made period shader.capabilityMask (environmentLayout env d shader).result)
      period (environmentLayout env d shader).state.1 := by
  unfold environmentLayout
  by_cases hnone : shader.capabilityMask = .empty
  · simpa [Mask.isEmpty, hnone] using h.append (by simp)
  · simpa [Mask.isEmpty, hnone] using env.tables_layoutFor h d shader.capabilityMask

theorem tables_build (h : ledger.Tables period env) (s : PipelineStore) (d : Device) (v : Variant)
    (cull : CullMode) :
    Ledger.Tables (ledger ++ (s.build env d v cull).result.made period env) period
      (s.build env d v cull).state.1 := by
  rw [BuiltPipeline.made, ← List.append_assoc]
  refine tables_environmentLayout (h.append ?_) (texturesLayout s.host d v.shader).2 v.shader _
  intro r hr m
  split at hr
  · rw [List.mem_singleton.mp hr]
    simp
  · simp at hr

theorem build_entered (h : ledger.Tables period env) (s : PipelineStore) (d : Device) (v : Variant)
    (cull : CullMode) :
    Build.Entered s.host (ledger ++ (s.build env d v cull).result.made period env)
      ⟨period, (s.build env d v cull).result⟩ where
  groups := by simp [build, Device.createPipelineLayout]
  layout := rfl
  textures hsome := texturesLayout_of_some s.host d hsome
  noTextures hnone := by
    refine ⟨List.mem_append_right _ (List.mem_append_left _ ?_), texturesLayout_of_none s.host d hnone⟩
    rw [if_pos hnone]
    exact List.mem_singleton_self _
  environment := by
    unfold Build.purpose
    split
    · next hnone =>
      refine List.mem_append_right _ (List.mem_append_right _ ?_)
      rw [if_pos hnone]
      exact List.mem_singleton_self _
    · next hsome =>
      -- A layout that was not made now is in the table, so it has a row of this period.
      exact (tables_build h s d v cull _ _).mp (environmentLayout_of_some env _ hsome)
  noEnvironment hnone := environmentLayout_of_none env _ hnone

/-! ## Requests -/

/-- Nothing is built, and no layout is made. -/
structure Leaves (w w' : World) : Prop where
  host : w'.store.host = w.store.host
  pipelines : ∀ e ∈ w'.store.pipelines, e ∈ w.store.pipelines
  environment : w'.environment = w.environment
  nextId : w.device.nextId ≤ w'.device.nextId
  layouts : w'.device.counts.bindGroupLayouts = w.device.counts.bindGroupLayouts

/-- The entry is built, after the module of its variant has been made if need be. -/
structure Builds (w : World) (e : BuiltPipeline) (w' : World) : Prop where
  host : w'.store.host = w.store.host
  pipelines : w'.store.pipelines = w.store.pipelines ++ [e]
  build : ∃ n v cull,
    e = (w.store.build w.environment (w.device.also { shaderModules := n }) v cull).result ∧
    w'.environment =
      (w.store.build w.environment (w.device.also { shaderModules := n }) v cull).state.1 ∧
    w'.device = (w.store.build w.environment (w.device.also { shaderModules := n }) v cull).state.2

theorem Builds.makes {w w' : World} {e : BuiltPipeline} (h : Builds w e w') (period : Nat) :
    ∃ n d', (w.device.also { shaderModules := n }).Makes (e.made period w.environment) d' ∧
      e.pipeline.id = d'.nextId + 1 ∧
      w'.device = d'.also { pipelineLayouts := 1, renderPipelines := 1 } := by
  obtain ⟨n, v, cull, rfl, -, hdevice⟩ := h.build
  obtain ⟨d', hmakes, hid, hlast⟩ := w.store.build_makes w.environment
    (w.device.also { shaderModules := n }) v cull period
  exact ⟨n, d', hmakes, hid, hdevice.trans hlast⟩

theorem Builds.tables {w w' : World} {e : BuiltPipeline} (h : Builds w e w')
    (htables : ledger.Tables period w.environment) :
    Ledger.Tables (ledger ++ e.made period w.environment) period w'.environment := by
  obtain ⟨n, v, cull, rfl, henvironment, -⟩ := h.build
  rw [henvironment]
  exact tables_build htables w.store _ v cull

theorem Builds.entered {w w' : World} {e : BuiltPipeline} (h : Builds w e w')
    (htables : ledger.Tables period w.environment) :
    Build.Entered w.store.host (ledger ++ e.made period w.environment) ⟨period, e⟩ := by
  obtain ⟨n, v, cull, rfl, -, -⟩ := h.build
  exact build_entered htables w.store _ v cull

theorem request_cases (w : World) (ids : List String) (cull : CullMode) (held : List BuiltPipeline) :
    (Leaves w (after w ⟨.request ids cull, held⟩) ∧
      ∀ e, w.request ids cull = .ok e → e ∈ w.store.pipelines) ∨
    ∃ e, w.request ids cull = .ok e ∧ Builds w e (after w ⟨.request ids cull, held⟩) := by
  obtain ⟨n, hdevice⟩ := w.store.variants.getOrCreate_device w.device ids
  have hleaves : Leaves w (.ofState ({ w.store with
      variants := (w.store.variants.getOrCreate w.device ids).state.1 }, w.environment,
      (w.store.variants.getOrCreate w.device ids).state.2)) := by
    refine ⟨rfl, fun _ he => he, rfl, ?_, ?_⟩
    · simp only [World.ofState, hdevice, Device.nextId_also]
      omega
    · simp only [World.ofState, hdevice]
      rfl
  simp only [World.request, after]
  cases hr : (w.store.variants.getOrCreate w.device ids).result with
  | error x =>
    left
    rw [(getOrCreate_of_failed hr).1, (getOrCreate_of_failed hr).2]
    exact ⟨hleaves, by simp⟩
  | ok v =>
    cases hfind : w.store.find? v.key cull with
    | some e =>
      left
      obtain ⟨hresult, hstate⟩ := getOrCreate_of_found w.environment hr hfind
      rw [hresult, hstate]
      refine ⟨hleaves, ?_⟩
      rintro _ ⟨⟩
      exact List.mem_of_find?_eq_some hfind
    | none =>
      right
      obtain ⟨hresult, hstate⟩ := getOrCreate_of_missing w.environment hr hfind
      rw [hresult, hstate, hdevice]
      exact ⟨_, rfl, rfl, rfl, n, v, cull, rfl, rfl, rfl⟩

/-- Whether the call is one of the store, and not a use of the environment and the device by others. -/
def Op.IsOwn : Op → Prop
  | .others .. => False
  | _ => True

theorem leaves_of_not_request {w : World} {c : Call} (hown : c.op.IsOwn)
    (h : ∀ ids cull, c.op ≠ .request ids cull) : Leaves w (after w c) := by
  have hleaves {s : PipelineStore} (hhost : s.host = w.store.host)
      (hsub : ∀ e ∈ s.pipelines, e ∈ w.store.pipelines) : Leaves w { w with store := s } :=
    ⟨hhost, hsub, rfl, le_rfl, rfl⟩
  obtain ⟨op, held⟩ := c
  cases op with
  | request ids cull => exact absurd rfl (h ids cull)
  | invalidate ids => exact hleaves rfl fun e he => (List.mem_filter.mp he).1
  | register f =>
    cases hr : (w.store.variants.library.register f).result with
    | error x =>
      simp only [after, register_of_failed hr]
      exact hleaves rfl fun e he => he
    | ok previous =>
      simp only [after, register_of_ok hr]
      exact hleaves rfl fun e he => (List.mem_filter.mp he).1
  | setSettings settings =>
    simp only [after, setSettings]
    split
    · exact hleaves rfl fun e he => he
    · exact hleaves rfl (by simp)
  | invalidateAll => exact hleaves rfl (by simp [invalidateAll, clear])
  | reload => exact hleaves rfl (by simp [reload])
  | clear => exact hleaves rfl (by simp [clear])
  | others environment calls => exact hown.elim

end PipelineStore

end ShaderWeave
