import ShaderWeave.Pipeline.Store
import ShaderWeave.Proofs.Variant.Modules

/-!
# Runs of a store of pipelines

A store of pipelines shares the device with others, and the environment too. Its store of variants
takes part in the run: each call makes some calls of it, so what holds after every run of a store of
variants holds there.
-/

namespace ShaderWeave.PipelineStore

/-! ## Calls and runs -/

inductive Op
  | request (ids : List String) (cull : CullMode)
  | invalidate (ids : List String)
  | invalidateAll
  | register (f : Feature)
  | reload
  | setSettings (settings : PipelineSettings)
  | clear
  /-- Others use the environment and the device. -/
  | others (environment : MaskLayouts) (calls : CallCounts)

structure Call where
  op : Op
  /-- The entries that callers hold meanwhile. -/
  held : List BuiltPipeline := []

/-- The calls of callers that hold no entries. -/
def unheld (ops : List Op) : List Call := ops.map fun op => ⟨op, []⟩

structure World where
  store : PipelineStore
  environment : MaskLayouts
  device : Device

namespace World

def ofState (state : PipelineStore × MaskLayouts × Device) : World :=
  ⟨state.1, state.2.1, state.2.2⟩

def library (w : World) : Library := w.store.variants.library

/-- The store of variants with its device. -/
def variants (w : World) : VariantStore × Device := (w.store.variants, w.device)

end World

def after (w : World) (c : Call) : World :=
  match c.op with
  | .request ids cull => .ofState (w.store.getOrCreate w.environment w.device ids cull).state
  | .invalidate ids => { w with store := (w.store.invalidate c.held ids).state }
  | .invalidateAll => { w with store := w.store.invalidateAll.state }
  | .register f => { w with store := (w.store.register c.held f).state }
  | .reload => { w with store := w.store.reload.state }
  | .setSettings settings => { w with store := (w.store.setSettings settings).state }
  | .clear => { w with store := w.store.clear.state }
  | .others environment calls => ⟨w.store, environment, w.device.also calls⟩

def run (w : World) (calls : List Call) : World := calls.foldl after w

@[simp]
theorem run_nil (w : World) : run w [] = w := rfl

@[simp]
theorem run_cons (w : World) (c : Call) (calls : List Call) :
    run w (c :: calls) = run (after w c) calls := rfl

theorem run_append (w : World) (a b : List Call) : run w (a ++ b) = run (run w a) b :=
  List.foldl_append

/-- What every call keeps holds after every run. -/
theorem run_induction {P : World → Prop} (step : ∀ w c, P w → P (after w c)) {w : World}
    (calls : List Call) (h : P w) : P (run w calls) := by
  induction calls generalizing w with
  | nil => exact h
  | cons c calls ih => exact ih (step w c h)

/-- What a call does to the library. -/
def Call.library (lib : Library) (c : Call) : Library :=
  match c.op with
  | .register f => (lib.register f).state
  | .reload => lib.reload.state
  | _ => lib

/-- What a call does to the settings. -/
def Call.settings (settings : PipelineSettings) (c : Call) : PipelineSettings :=
  match c.op with
  | .setSettings new => new
  | _ => settings

/-- The sources that a call composes. -/
def Call.sources (c : Call) (s : PipelineStore) : List String :=
  match c.op with
  | .request ids _ => VariantStore.Call.sources ⟨.request ids, []⟩ s.variants
  | _ => []

/-- The sources that a run composes. -/
def sources (w : World) : List Call → List String
  | [] => []
  | c :: calls => c.sources w.store ++ sources (after w c) calls

theorem sources_append (w : World) (a b : List Call) :
    sources w (a ++ b) = sources w a ++ sources (run w a) b := by
  induction a generalizing w with
  | nil => rfl
  | cons c a ih => simp [sources, ih]

variable {s : PipelineStore} {env : MaskLayouts} {d : Device} {ids : List String} {cull : CullMode}
  {v : Variant} {w : World}

/-! ## Building -/

theorem texturesLayout_device (host : HostLayouts) (d : Device) (shader : Shader) :
    ∃ calls, (texturesLayout host d shader).2 = d.also calls := by
  unfold texturesLayout
  split
  · exact ⟨{}, rfl⟩
  · exact ⟨{ bindGroupLayouts := 1 }, rfl⟩

theorem environmentLayout_device (env : MaskLayouts) (d : Device) (shader : Shader) :
    ∃ calls, (environmentLayout env d shader).state.2 = d.also calls := by
  unfold environmentLayout
  split
  · exact ⟨{ bindGroupLayouts := 1 }, rfl⟩
  · unfold MaskLayouts.layoutFor
    split
    · exact ⟨{}, rfl⟩
    · exact ⟨{ bindGroupLayouts := 1 }, rfl⟩

/-- Building a pipeline uses the device as others do: it makes no modules of variants. -/
theorem build_device (s : PipelineStore) (env : MaskLayouts) (d : Device) (v : Variant)
    (cull : CullMode) : ∃ calls, (s.build env d v cull).state.2 = d.also calls := by
  obtain ⟨a, ha⟩ := texturesLayout_device s.host d v.shader
  obtain ⟨b, hb⟩ := environmentLayout_device env (d.also a) v.shader
  refine ⟨(a.add b).add { pipelineLayouts := 1, renderPipelines := 1 }, ?_⟩
  rw [← Device.also_also, ← Device.also_also, ← hb, ← ha]
  rfl

theorem pipelineFor_of_found {e : BuiltPipeline} (h : s.find? v.key cull = some e) :
    (s.pipelineFor env d v cull).result = e ∧ (s.pipelineFor env d v cull).state = (s, env, d) := by
  unfold pipelineFor
  rw [h]
  exact ⟨rfl, rfl⟩

theorem pipelineFor_of_missing (h : s.find? v.key cull = none) :
    (s.pipelineFor env d v cull).result = (s.build env d v cull).result ∧
    (s.pipelineFor env d v cull).state =
      ({ s with
        pipelines := s.pipelines ++ [(s.build env d v cull).result]
        nextSerial := s.nextSerial + 1 }, (s.build env d v cull).state) := by
  unfold pipelineFor
  rw [h]
  exact ⟨rfl, rfl⟩

theorem pipelineFor_device (s : PipelineStore) (env : MaskLayouts) (d : Device) (v : Variant)
    (cull : CullMode) : ∃ calls, (s.pipelineFor env d v cull).state.2.2 = d.also calls := by
  cases h : s.find? v.key cull with
  | some e =>
    rw [(pipelineFor_of_found h).2]
    exact ⟨{}, rfl⟩
  | none =>
    rw [(pipelineFor_of_missing h).2]
    exact build_device s env d v cull

@[simp]
theorem pipelineFor_variants (s : PipelineStore) (env : MaskLayouts) (d : Device) (v : Variant)
    (cull : CullMode) : (s.pipelineFor env d v cull).state.1.variants = s.variants := by
  unfold pipelineFor
  split <;> rfl

@[simp]
theorem pipelineFor_settings (s : PipelineStore) (env : MaskLayouts) (d : Device) (v : Variant)
    (cull : CullMode) : (s.pipelineFor env d v cull).state.1.settings = s.settings := by
  unfold pipelineFor
  split <;> rfl

/-! ## Requests -/

theorem getOrCreate_of_failed {e : ShaderError} (h : (s.variants.getOrCreate d ids).result = .error e) :
    (s.getOrCreate env d ids cull).result = .error e ∧
    (s.getOrCreate env d ids cull).state =
      ({ s with variants := (s.variants.getOrCreate d ids).state.1 }, env,
        (s.variants.getOrCreate d ids).state.2) := by
  simp [getOrCreate, h]

theorem getOrCreate_of_ok (h : (s.variants.getOrCreate d ids).result = .ok v) :
    (s.getOrCreate env d ids cull).result =
      .ok (pipelineFor { s with variants := (s.variants.getOrCreate d ids).state.1 } env
        (s.variants.getOrCreate d ids).state.2 v cull).result ∧
    (s.getOrCreate env d ids cull).state =
      (pipelineFor { s with variants := (s.variants.getOrCreate d ids).state.1 } env
        (s.variants.getOrCreate d ids).state.2 v cull).state := by
  simp [getOrCreate, h]

theorem getOrCreate_of_found (env : MaskLayouts) {e : BuiltPipeline}
    (h : (s.variants.getOrCreate d ids).result = .ok v) (hfind : s.find? v.key cull = some e) :
    (s.getOrCreate env d ids cull).result = .ok e ∧
    (s.getOrCreate env d ids cull).state =
      ({ s with variants := (s.variants.getOrCreate d ids).state.1 }, env,
        (s.variants.getOrCreate d ids).state.2) := by
  have hfind' : find? { s with variants := (s.variants.getOrCreate d ids).state.1 } v.key cull =
      some e := hfind
  rw [(getOrCreate_of_ok h).1, (getOrCreate_of_ok h).2, (pipelineFor_of_found hfind').1,
    (pipelineFor_of_found hfind').2]
  exact ⟨rfl, rfl⟩

theorem getOrCreate_of_missing (env : MaskLayouts)
    (h : (s.variants.getOrCreate d ids).result = .ok v) (hfind : s.find? v.key cull = none) :
    (s.getOrCreate env d ids cull).result =
      .ok (s.build env (s.variants.getOrCreate d ids).state.2 v cull).result ∧
    (s.getOrCreate env d ids cull).state =
      ({ s with
        variants := (s.variants.getOrCreate d ids).state.1
        pipelines := s.pipelines ++
          [(s.build env (s.variants.getOrCreate d ids).state.2 v cull).result]
        nextSerial := s.nextSerial + 1 },
        (s.build env (s.variants.getOrCreate d ids).state.2 v cull).state) := by
  have hfind' : find? { s with variants := (s.variants.getOrCreate d ids).state.1 } v.key cull =
      none := hfind
  rw [(getOrCreate_of_ok h).1, (getOrCreate_of_ok h).2, (pipelineFor_of_missing hfind').1,
    (pipelineFor_of_missing hfind').2]
  exact ⟨rfl, rfl⟩

@[simp]
theorem getOrCreate_variants (s : PipelineStore) (env : MaskLayouts) (d : Device) (ids : List String)
    (cull : CullMode) : (s.getOrCreate env d ids cull).state.1.variants =
      (s.variants.getOrCreate d ids).state.1 := by
  cases h : (s.variants.getOrCreate d ids).result with
  | error e => rw [(getOrCreate_of_failed h).2]
  | ok v => rw [(getOrCreate_of_ok h).2, pipelineFor_variants]

theorem getOrCreate_device (s : PipelineStore) (env : MaskLayouts) (d : Device) (ids : List String)
    (cull : CullMode) : ∃ calls, (s.getOrCreate env d ids cull).state.2.2 =
      (s.variants.getOrCreate d ids).state.2.also calls := by
  cases h : (s.variants.getOrCreate d ids).result with
  | error e =>
    rw [(getOrCreate_of_failed h).2]
    exact ⟨{}, rfl⟩
  | ok v =>
    rw [(getOrCreate_of_ok h).2]
    exact pipelineFor_device _ env _ v cull

/-! ## The variants in the run -/

theorem variants_request (w : World) (ids : List String) (cull : CullMode) :
    ∃ calls, (World.ofState (w.store.getOrCreate w.environment w.device ids cull).state).variants =
      VariantStore.run w.variants [⟨.request ids, []⟩, ⟨.others calls, []⟩] := by
  obtain ⟨calls, hdevice⟩ := getOrCreate_device w.store w.environment w.device ids cull
  exact ⟨calls, Prod.ext (getOrCreate_variants w.store w.environment w.device ids cull) hdevice⟩

/-- To the store of variants, a call is a few calls of its own. -/
theorem variants_after (w : World) (c : Call) :
    ∃ calls, (after w c).variants = VariantStore.run w.variants calls ∧
      VariantStore.sources w.variants calls = c.sources w.store := by
  obtain ⟨op, held⟩ := c
  cases op with
  | request ids cull =>
    obtain ⟨calls, h⟩ := variants_request w ids cull
    refine ⟨_, h, ?_⟩
    simp only [VariantStore.sources, List.append_nil]
    exact List.append_nil _
  | invalidate ids =>
    let pipelines := w.store.pipelines.filter (·.key != .ofIds ids)
    exact ⟨[⟨.invalidate (.ofIds ids), heldVariants (pipelines ++ held)⟩], rfl, rfl⟩
  | invalidateAll => exact ⟨[⟨.invalidateAll, []⟩], rfl, rfl⟩
  | register f =>
    refine ⟨[⟨.register f, heldVariants (w.store.pipelines ++ held)⟩], ?_, rfl⟩
    simp only [after, World.variants, register, VariantStore.run_cons, VariantStore.run_nil,
      VariantStore.after]
    split <;> rfl
  | reload => exact ⟨[⟨.reload, []⟩], rfl, rfl⟩
  | setSettings settings =>
    by_cases hsame : settings = w.store.settings
    · exact ⟨[], by simp [after, setSettings, hsame], rfl⟩
    · exact ⟨[⟨.dump settings.dumpSource, []⟩], by simp [after, setSettings, hsame, World.variants,
        VariantStore.after], rfl⟩
  | clear => exact ⟨[⟨.invalidateAll, []⟩], rfl, rfl⟩
  | others environment calls => exact ⟨[⟨.others calls, []⟩], rfl, rfl⟩

theorem variants_run (w : World) (calls : List Call) :
    ∃ below, (run w calls).variants = VariantStore.run w.variants below ∧
      VariantStore.sources w.variants below = sources w calls := by
  induction calls generalizing w with
  | nil => exact ⟨[], rfl, rfl⟩
  | cons c calls ih =>
    obtain ⟨first, hfirst, hsources⟩ := variants_after w c
    obtain ⟨rest, hrest, hsources'⟩ := ih (after w c)
    refine ⟨first ++ rest, ?_, ?_⟩
    · rw [run_cons, hrest, hfirst, VariantStore.run_append]
    · rw [VariantStore.sources_append, hsources, ← hfirst, hsources']
      rfl

/-! ## The library and the settings -/

theorem register_of_failed {held : List BuiltPipeline} {f : Feature} {e : ShaderError}
    (h : (s.variants.library.register f).result = .error e) : (s.register held f).state = s := by
  obtain ⟨hresult, hstate⟩ :=
    VariantStore.register_of_failed (heldVariants (s.pipelines ++ held)) h
  simp [register, hresult, hstate]

theorem register_of_ok {held : List BuiltPipeline} {f : Feature} {previous : Option Feature}
    (h : (s.variants.library.register f).result = .ok previous) :
    (s.register held f).state = { s with
      variants := (s.variants.register (heldVariants (s.pipelines ++ held)) f).state
      pipelines := s.pipelines.filter fun e =>
        !((s.variants.variants.filter (·.features.contains f.id)).map Variant.key).contains e.key } := by
  obtain ⟨hresult, -⟩ := VariantStore.register_of_ok (heldVariants (s.pipelines ++ held)) h
  simp [register, hresult]

theorem getOrCreate_settings (s : PipelineStore) (env : MaskLayouts) (d : Device) (ids : List String)
    (cull : CullMode) : (s.getOrCreate env d ids cull).state.1.settings = s.settings := by
  cases hr : (s.variants.getOrCreate d ids).result with
  | error e => rw [(getOrCreate_of_failed hr).2]
  | ok v => rw [(getOrCreate_of_ok hr).2, pipelineFor_settings]

theorem register_library (s : PipelineStore) (held : List BuiltPipeline) (f : Feature) :
    (s.register held f).state.variants.library = (s.variants.library.register f).state := by
  cases hr : (s.variants.library.register f).result with
  | error e => rw [register_of_failed hr, Library.register_failed hr]
  | ok previous => rw [register_of_ok hr, VariantStore.register_library]

theorem register_settings (s : PipelineStore) (held : List BuiltPipeline) (f : Feature) :
    (s.register held f).state.settings = s.settings := by
  unfold register
  dsimp only
  split <;> rfl

theorem after_library (w : World) (c : Call) : (after w c).library = c.library w.library := by
  obtain ⟨op, held⟩ := c
  cases op with
  | request ids cull =>
    simp only [after, World.ofState, World.library, getOrCreate_variants]
    exact VariantStore.getOrCreate_library w.store.variants w.device ids
  | register f => exact register_library w.store held f
  | setSettings settings =>
    simp only [after, setSettings, World.library, Call.library]
    split <;> rfl
  | _ => rfl

theorem after_settings (w : World) (c : Call) :
    (after w c).store.settings = c.settings w.store.settings := by
  obtain ⟨op, held⟩ := c
  cases op with
  | request ids cull => exact getOrCreate_settings w.store w.environment w.device ids cull
  | register f => exact register_settings w.store held f
  | setSettings settings =>
    simp only [after, setSettings, Call.settings]
    split
    · next hsame => exact hsame.symm
    · rfl
  | _ => rfl

theorem run_library (w : World) (calls : List Call) :
    (run w calls).library = calls.foldl Call.library w.library := by
  induction calls generalizing w with
  | nil => rfl
  | cons c calls ih => rw [run_cons, ih, after_library, List.foldl_cons]

theorem run_settings (w : World) (calls : List Call) :
    (run w calls).store.settings = calls.foldl Call.settings w.store.settings := by
  induction calls generalizing w with
  | nil => rfl
  | cons c calls ih => rw [run_cons, ih, after_settings, List.foldl_cons]

/-! ## Runs from the start -/

def start (host : HostLayouts) (lib : Library) (settings : PipelineSettings) (env : MaskLayouts)
    (d : Device) : World := ⟨ofLibrary host lib settings, env, d⟩

theorem variants_run_start (host : HostLayouts) (lib : Library) (settings : PipelineSettings)
    (env : MaskLayouts) (d : Device) (calls : List Call) :
    ∃ below, (run (start host lib settings env d) calls).variants =
        VariantStore.run (.ofLibrary lib, d) below ∧
      VariantStore.sources (.ofLibrary lib, d) below =
        sources (start host lib settings env d) calls := by
  obtain ⟨below, hrun, hsources⟩ := variants_run (start host lib settings env d) calls
  -- At the start the store of variants has only been told whether to log sources.
  exact ⟨⟨.dump settings.dumpSource, []⟩ :: below, hrun, hsources⟩

def plain : World :=
  start ⟨⟨1, "Global", []⟩, ⟨2, "Object", []⟩, ⟨3, "Textures", []⟩⟩ .blank {} {}
    ⟨{ bindGroupLayouts := 3 }⟩

def fogOf (functions : String) : Feature := { id := "fog", stage := .fragment, functions }

/-- Fog is declared, asked for and declared anew. -/
def fogDeclaredAnew : List Op :=
  [.register (fogOf "fn thin() \x7b\x7d"), .request ["fog"] .back,
    .register (fogOf "fn dense() \x7b\x7d")]

end ShaderWeave.PipelineStore
