import ShaderWeave.Environment.Mask
import ShaderWeave.Feature.Request
import ShaderWeave.Pipeline.Settings

/-!
# What is logged

An operation returns what it logs next to its result and the state it leaves. Each event is a
value; its level and its text are functions on it.
-/

namespace ShaderWeave

inductive Level
  | error
  | warn
  | info
  | debug
  | trace
  deriving DecidableEq

def Level.name : Level → String
  | error => "error"
  | warn => "warn"
  | info => "info"
  | debug => "debug"
  | trace => "trace"

inductive Event
  | featureOverridden (id : String)
  | templateReload
  | varyingRedeclared (varying feature : String)
  | injectionIgnored (feature : String)
  | composed (key : RequestKey) (features textures environment : Nat)
  | variantHit (key : RequestKey)
  | sourceDumped (key : RequestKey) (source : String)
  | moduleCompiled (key : RequestKey)
  /-- One variant by its key, or every variant. -/
  | variantsInvalidated (count : Nat) (key : Option RequestKey)
  | featureChanged (id : String) (count : Nat)
  | pipelineHit (key : RequestKey) (cull : CullMode)
  /-- A shader declares slots that its features are not known to need. -/
  | outsideCapabilities (key : RequestKey) (uncovered : Mask)
  | environmentLayoutCreated (mask : Mask)
  | pipelineCreated (key : RequestKey) (cull : CullMode) (mask : Mask)
  | pipelinesInvalidated (count : Nat)
  | bindingOmitted (binding : Nat) (name provider : String)
  | environmentBindingOmitted (binding : Nat) (name : String)
  deriving DecidableEq

namespace Event

def level : Event → Level
  | varyingRedeclared .. | injectionIgnored _ | outsideCapabilities .. => .warn
  | featureOverridden _ | variantsInvalidated .. | featureChanged .. | pipelinesInvalidated _ =>
    .info
  | templateReload | composed .. | moduleCompiled _ | environmentLayoutCreated _
  | pipelineCreated .. => .debug
  | variantHit _ | sourceDumped .. | pipelineHit .. | bindingOmitted ..
  | environmentBindingOmitted .. => .trace

def message : Event → String
  | featureOverridden id => s!"Feature '{id}' overridden by a new registration"
  | templateReload => "Shader template 'variant' scheduled for reload"
  | varyingRedeclared varying feature =>
    s!"Varying '{varying}' redeclared by feature '{feature}' with a different type; " ++
      "first declaration kept"
  | injectionIgnored feature =>
    s!"Feature '{feature}' provides a fragment injection but owns no exclusive slot; ignored"
  | composed key features textures environment =>
    s!"Composed shader variant '{key.display}' ({features} features, " ++
      s!"{textures} texture bindings, {environment} environment bindings)"
  | variantHit key => s!"Variant cache hit: {key.display}"
  | sourceDumped key source => s!"Generated shader for variant '{key.display}':\n{source}"
  | moduleCompiled key => s!"Compiling shader module for variant '{key.display}'"
  | variantsInvalidated count none => s!"Invalidated {count} shader variant(s)"
  | variantsInvalidated count (some key) =>
    s!"Invalidated {count} shader variant(s) for '{key.display}'"
  | featureChanged id count => s!"Feature '{id}' changed; invalidated {count} dependent variant(s)"
  | pipelineHit key cull => s!"Pipeline cache hit: {key.display} ({cull.debug})"
  | outsideCapabilities key uncovered =>
    s!"Variant '{key.display}' declares environment bindings outside its capability mask " ++
      s!"({uncovered.hexText}); the environment layout will not contain them"
  | environmentLayoutCreated mask => s!"Creating environment layout for mask {mask.hexText}"
  | pipelineCreated key cull mask =>
    s!"Created pipeline for variant '{key.display}' (cull {cull.debug}, env mask {mask.hexText})"
  | pipelinesInvalidated count => s!"Invalidated all variant pipelines ({count})"
  | bindingOmitted binding name provider =>
    s!"Binding {binding} '{name}' not supplied by provider '{provider}'; omitted"
  | environmentBindingOmitted binding name =>
    s!"Environment binding {binding} '{name}' unavailable; omitted"

end Event

/-- Events in the order they came about. -/
abbrev Log := List Event

/-- What an operation gives back. -/
structure Reply (σ α : Type) where
  result : α
  /-- The state it leaves. -/
  state : σ
  log : Log

end ShaderWeave
