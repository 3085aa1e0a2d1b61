import ShaderWeave.Environment.Layouts
import ShaderWeave.Variant.Store

/-!
# The store of pipelines

A pipeline is built for a variant and a cull mode. Its four groups are bound against these layouts:

| Group | Layout                                                                       |
|-------|------------------------------------------------------------------------------|
| 0     | the global layout of the host                                                |
| 1     | the object layout of the host                                                |
| 2     | the textures layout of the host if the variant has textures, else a new one  |
|       | without entries                                                              |
| 3     | the layout that the environment keeps for the capability mask of the variant,|
|       | or a new one without entries if the mask is empty                            |

A device compares layouts by identity. Bind groups of meshes are made against the textures layout of
the host, so it is that very layout that a pipeline gets.
-/

namespace ShaderWeave

structure BuiltPipeline where
  /-- No two entries of a store have the same serial number. -/
  serial : Nat
  variant : Variant
  pipeline : RenderPipeline
  pipelineLayout : PipelineLayout
  texturesLayout : BindGroupLayout
  environmentLayout : BindGroupLayout
  mask : Mask
  cull : CullMode
  hasTextures : Bool
  hasEnvironment : Bool
  deriving DecidableEq

namespace BuiltPipeline

def key (e : BuiltPipeline) : RequestKey := e.variant.key

def debug (e : BuiltPipeline) : String :=
  Text.openRecord "PipelineEntry"
    [("feature_key", "FeatureKey(" ++ Text.quoted e.key.text ++ ")"), ("cull_mode", e.cull.debug),
      ("env_mask", e.mask.debug), ("has_texture_bindings", toString e.hasTextures),
      ("has_environment_bindings", toString e.hasEnvironment)]

end BuiltPipeline

/-- The layouts that the host of a store brings. -/
structure HostLayouts where
  global : BindGroupLayout
  object : BindGroupLayout
  textures : BindGroupLayout
  deriving DecidableEq

structure PipelineStats where
  pipelines : Nat
  variants : Nat
  /-- The number of compiled modules in the table. -/
  shaderModules : Nat
  deriving DecidableEq

structure PipelineStore where
  host : HostLayouts
  variants : VariantStore
  settings : PipelineSettings
  pipelines : List BuiltPipeline := []
  nextSerial : Nat := 0

namespace PipelineStore

def ofLibrary (host : HostLayouts) (lib : Library) (settings : PipelineSettings) :
    PipelineStore :=
  { host, settings, variants := { library := lib, dumpSource := settings.dumpSource } }

def find? (s : PipelineStore) (key : RequestKey) (cull : CullMode) : Option BuiltPipeline :=
  s.pipelines.find? fun e => e.key == key && e.cull == cull

def stats (s : PipelineStore) : PipelineStats :=
  ⟨s.pipelines.length, s.variants.size, s.variants.moduleCount⟩

/-! ## Building -/

/-- The warning that some declared environment bindings will have no place in the layout. -/
def coverageLog (shader : Shader) : Log :=
  let uncovered := shader.declaredMask.difference shader.capabilityMask
  if uncovered.isEmpty then [] else [.outsideCapabilities shader.key uncovered]

/-- The layout of group 2. -/
def texturesLayout (host : HostLayouts) (d : Device) (shader : Shader) :
    BindGroupLayout × Device :=
  if shader.hasTextures then (host.textures, d)
  else d.createBindGroupLayout ("Empty Textures Layout " ++ shader.key.display) []

/-- The layout of group 3. -/
def environmentLayout (env : MaskLayouts) (d : Device) (shader : Shader) :
    Reply (MaskLayouts × Device) BindGroupLayout :=
  if shader.capabilityMask.isEmpty then
    let made :=
      d.createBindGroupLayout ("Empty Environment Layout " ++ shader.key.display) []
    { result := made.1, state := (env, made.2), log := [] }
  else env.layoutFor d shader.capabilityMask

def build (s : PipelineStore) (env : MaskLayouts) (d : Device) (v : Variant)
    (cull : CullMode) : Reply (MaskLayouts × Device) BuiltPipeline :=
  let key := v.key.display
  let mask := v.shader.capabilityMask
  let textures := texturesLayout s.host d v.shader
  let environment := environmentLayout env textures.2 v.shader
  let layout := environment.state.2.createPipelineLayout ("Variant Pipeline Layout " ++ key)
    #v[s.host.global, s.host.object, textures.1, environment.result]
  let pipeline := layout.2.createRenderPipeline
    ("Variant Pipeline " ++ key ++ " (" ++ cull.debug ++ ")") layout.1 v.shaderModule cull
    s.settings
  { result :=
      { serial := s.nextSerial
        variant := v
        pipeline := pipeline.1
        pipelineLayout := layout.1
        texturesLayout := textures.1
        environmentLayout := environment.result
        mask
        cull
        hasTextures := v.shader.hasTextures
        hasEnvironment := v.shader.hasEnvironment }
    state := (environment.state.1, pipeline.2)
    log := coverageLog v.shader ++ environment.log ++ [.pipelineCreated v.key cull mask] }

/-- The pipeline of a variant, built and stored if there is none for the cull mode. -/
def pipelineFor (s : PipelineStore) (env : MaskLayouts) (d : Device) (v : Variant)
    (cull : CullMode) : Reply (PipelineStore × MaskLayouts × Device) BuiltPipeline :=
  match s.find? v.key cull with
  | some e => { result := e, state := (s, env, d), log := [.pipelineHit v.key cull] }
  | none =>
    let b := s.build env d v cull
    { result := b.result
      state := ({ s with
        pipelines := s.pipelines ++ [b.result]
        nextSerial := s.nextSerial + 1 }, b.state)
      log := b.log }

/-- The pipeline for a request and a cull mode, built on first use. -/
def getOrCreate (s : PipelineStore) (env : MaskLayouts) (d : Device) (ids : List String)
    (cull : CullMode) :
    Reply (PipelineStore × MaskLayouts × Device) (Except ShaderError BuiltPipeline) :=
  let r := s.variants.getOrCreate d ids
  let s := { s with variants := r.state.1 }
  match r.result with
  | .error e => { result := .error e, state := (s, env, r.state.2), log := r.log }
  | .ok v =>
    let b := s.pipelineFor env r.state.2 v cull
    { result := .ok b.result, state := b.state, log := r.log ++ b.log }

/-! ## Invalidation

Whoever holds an entry holds its variant. `held` are the entries that the callers of the store
hold.
-/

/-- The variants that entries hold. -/
def heldVariants (entries : List BuiltPipeline) : List Variant := entries.map BuiltPipeline.variant

/-- Forgets the variant for a request with all its pipelines. -/
def invalidate (held : List BuiltPipeline) (s : PipelineStore) (ids : List String) :
    Reply PipelineStore Unit :=
  let key := RequestKey.ofIds ids
  let pipelines := s.pipelines.filter (·.key != key)
  let r := s.variants.invalidate (heldVariants (pipelines ++ held)) key
  { result := (), state := { s with pipelines, variants := r.state }, log := r.log }

/-- Forgets all pipelines and all variants. -/
def clear (s : PipelineStore) : Reply PipelineStore Unit :=
  let r := s.variants.invalidateAll
  { result := (), state := { s with pipelines := [], variants := r.state }, log := r.log }

/-- Forgets all pipelines and all variants, and logs the number of pipelines. -/
def invalidateAll (s : PipelineStore) : Reply PipelineStore Unit :=
  let r := s.clear
  { r with log := r.log ++ [.pipelinesInvalidated s.pipelines.length] }

/-- Registers a feature and forgets every pipeline whose variant had it. Modules are released while
the pipelines are still there, so the modules of stale variants with pipelines stay. -/
def register (held : List BuiltPipeline) (s : PipelineStore) (f : Feature) :
    Reply PipelineStore (Except ShaderError (Option Feature)) :=
  let r := s.variants.register (heldVariants (s.pipelines ++ held)) f
  match r.result with
  | .error e => { result := .error e, state := { s with variants := r.state }, log := r.log }
  | .ok change =>
    { result := .ok change.previous
      state := { s with
        variants := r.state
        pipelines := s.pipelines.filter fun e => !change.stale.contains e.key }
      log := r.log }

/-- Reads the template anew and forgets all pipelines and all variants. -/
def reload (s : PipelineStore) : Reply PipelineStore Unit :=
  let r := s.variants.reload
  { result := (), state := { s with pipelines := [], variants := r.state }, log := r.log }

/-- Replaces the settings. Other settings drop the pipelines; the variants stay. -/
def setSettings (s : PipelineStore) (settings : PipelineSettings) : Reply PipelineStore Unit :=
  { result := ()
    state :=
      if settings = s.settings then s
      else { s with
        settings
        pipelines := []
        variants := { s.variants with dumpSource := settings.dumpSource } }
    log := [] }

end PipelineStore

end ShaderWeave
