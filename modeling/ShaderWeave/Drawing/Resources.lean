import ShaderWeave.Log
import ShaderWeave.Shader.Bindings

/-!
# Resources at draw time

Each binding of a shader names a provider. For some providers there is an accessor, which gets the
resource of a name from an entity; the shared environment has resources by name. A binding that
nobody supplies is left out, so what is resolved may be shorter than the layout.
-/

namespace ShaderWeave

/-- A binding with the resource that fills it. -/
structure ResolvedBinding (R : Type) where
  index : Nat
  name : String
  resource : R
  deriving DecidableEq

/-- The resources that a function of the bindings supplies; `missing` is logged for each binding
that gets none. -/
def supply {R : Type} (find : Binding → Option R) (missing : Binding → Event)
    (bindings : List Binding) : List (ResolvedBinding R) × Log :=
  (bindings.filterMap fun b => (find b).map fun r => ⟨b.index, b.name, r⟩,
    (bindings.filter fun b => (find b).isNone).map missing)

/-! ## Resources of entities -/

/-- Accessors by provider: how to get the resource of a name from an entity. -/
structure Providers (E R : Type) where
  accessors : List (String × (E → String → Option R)) := []

namespace Providers

variable {E R : Type}

def accessor? (p : Providers E R) (provider : String) : Option (E → String → Option R) :=
  p.accessors.lookup provider

def contains (p : Providers E R) (provider : String) : Bool :=
  (p.accessor? provider).isSome

/-- Sets the accessor of a provider; the result says whether there was one. -/
def register (p : Providers E R) (provider : String) (accessor : E → String → Option R) :
    Bool × Providers E R :=
  (p.contains provider,
    ⟨(provider, accessor) :: p.accessors.filter (·.1 != provider)⟩)

/-- Sets as the accessor of a provider a component of the entity that supplies resources by name. -/
def registerComponent {C : Type} (p : Providers E R) (provider : String)
    (component : E → Option C) (resource : C → String → Option R) :
    Bool × Providers E R :=
  p.register provider fun entity name => (component entity).bind fun c => resource c name

/-- The resource of an entity for a binding. -/
def find? (p : Providers E R) (entity : E) (b : Binding) : Option R :=
  (p.accessor? b.provider).bind fun accessor => accessor entity b.name

/-- The bindings that an entity has resources for, in order. -/
def resolve (p : Providers E R) (entity : E) (bindings : List Binding) :
    List (ResolvedBinding R) × Log :=
  supply (p.find? entity) (fun b => .bindingOmitted b.index b.name b.provider) bindings

end Providers

/-! ## Resources of the environment -/

/-- Live resources by the names of environment slots. -/
structure EnvironmentResources (R : Type) where
  resources : List (String × R) := []
  deriving DecidableEq

namespace EnvironmentResources

variable {R : Type}

def get? (e : EnvironmentResources R) (name : String) : Option R := e.resources.lookup name

def erase (e : EnvironmentResources R) (name : String) : EnvironmentResources R :=
  ⟨e.resources.filter (·.1 != name)⟩

/-- Sets the resource of a name; the result is the one before. -/
def set (e : EnvironmentResources R) (name : String) (resource : R) :
    Option R × EnvironmentResources R :=
  (e.get? name, ⟨(name, resource) :: (e.erase name).resources⟩)

/-- Removes the resource of a name; the result is the one removed. -/
def remove (e : EnvironmentResources R) (name : String) : Option R × EnvironmentResources R :=
  (e.get? name, e.erase name)

/-- The bindings that the environment has resources for, in order. -/
def resolve (e : EnvironmentResources R) (bindings : List Binding) :
    List (ResolvedBinding R) × Log :=
  supply (fun b => e.get? b.name) (fun b => .environmentBindingOmitted b.index b.name) bindings

end EnvironmentResources

/-! ## Bind groups -/

inductive DeviceResource
  | textureView
  | sampler
  /-- A buffer of so many bytes. -/
  | buffer (size : Nat)
  deriving DecidableEq

/-- A resource as an entry of a bind group refers to it. -/
inductive BoundResource
  | textureView
  | sampler
  /-- A part of a buffer; without a size it reaches to the end. -/
  | buffer (offset : Nat) (size : Option Nat)
  deriving DecidableEq

/-- A buffer is bound as a whole. -/
def DeviceResource.bound : DeviceResource → BoundResource
  | textureView => .textureView
  | sampler => .sampler
  | buffer _ => .buffer 0 none

structure BindGroupEntry where
  index : Nat
  resource : BoundResource
  deriving DecidableEq

/-- The entries of the bind group for resolved bindings. -/
def bindGroupEntries (resolved : List (ResolvedBinding DeviceResource)) : List BindGroupEntry :=
  resolved.map fun r => ⟨r.index, r.resource.bound⟩

end ShaderWeave
