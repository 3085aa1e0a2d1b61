import ShaderWeave.Binding.LayoutEntry
import ShaderWeave.Pipeline.Settings

/-!
# A recording device

The device makes nothing. Each call returns a handle with the description it was made from, and is
counted. Handles of all kinds share one row of numbers from one on, so the number of a handle is its
identity.
-/

namespace ShaderWeave

structure ShaderModule where
  id : Nat
  label : String
  source : String
  deriving DecidableEq

structure BindGroupLayout where
  id : Nat
  label : String
  entries : List LayoutEntry
  deriving DecidableEq

structure PipelineLayout where
  id : Nat
  label : String
  /-- The numbers of the layouts bound at the groups zero to three. -/
  groups : Vector Nat 4
  deriving DecidableEq

structure RenderPipeline where
  id : Nat
  label : String
  /-- The number of the pipeline layout. -/
  layout : Nat
  /-- The number of the shader module. -/
  shaderModule : Nat
  cull : CullMode
  color : TextureFormat
  depth : TextureFormat
  compare : CompareFunction
  deriving DecidableEq

/-- How often each call was made. -/
structure CallCounts where
  shaderModules : Nat := 0
  bindGroupLayouts : Nat := 0
  pipelineLayouts : Nat := 0
  renderPipelines : Nat := 0
  deriving DecidableEq

structure Device where
  counts : CallCounts := {}
  deriving DecidableEq

namespace CallCounts

def total (c : CallCounts) : Nat :=
  c.shaderModules + c.bindGroupLayouts + c.pipelineLayouts + c.renderPipelines

end CallCounts

namespace Device

/-- The number of the next handle: every call made so far has taken one. -/
def nextId (d : Device) : Nat := d.counts.total + 1

def compileModule (d : Device) (label source : String) : ShaderModule × Device :=
  (⟨d.nextId, label, source⟩,
    { counts := { d.counts with shaderModules := d.counts.shaderModules + 1 } })

def createBindGroupLayout (d : Device) (label : String) (entries : List LayoutEntry) :
    BindGroupLayout × Device :=
  (⟨d.nextId, label, entries⟩,
    { counts := { d.counts with bindGroupLayouts := d.counts.bindGroupLayouts + 1 } })

/-- The layouts are those of the groups zero to three. -/
def createPipelineLayout (d : Device) (label : String) (groups : Vector BindGroupLayout 4) :
    PipelineLayout × Device :=
  (⟨d.nextId, label, groups.map BindGroupLayout.id⟩,
    { counts := { d.counts with pipelineLayouts := d.counts.pipelineLayouts + 1 } })

/-- The pipeline has the render-target state of the settings. -/
def createRenderPipeline (d : Device) (label : String) (layout : PipelineLayout)
    (shaderModule : ShaderModule) (cull : CullMode) (settings : PipelineSettings) :
    RenderPipeline × Device :=
  (⟨d.nextId, label, layout.id, shaderModule.id, cull, settings.color, settings.depth,
      settings.compare⟩,
    { counts := { d.counts with renderPipelines := d.counts.renderPipelines + 1 } })

end Device

end ShaderWeave
