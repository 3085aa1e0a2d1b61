import ShaderWeave.Binding.Kind
import ShaderWeave.Binding.Stage

/-!
# Entries of a bind group layout

What a device has to know of a binding: its index, the stages that see it, and its type. The type
forgets what a uniform or storage buffer holds.
-/

namespace ShaderWeave

inductive BindingType
  | uniformBuffer
  | storageBuffer (readOnly : Bool)
  | texture (sample : SampleKind) (view : Dimension)
  | sampler (kind : SamplerKind)
  deriving DecidableEq

def BindingType.ofKind : Kind → BindingType
  | .uniform _ => uniformBuffer
  | .storage _ readOnly => storageBuffer readOnly
  | .texture sample dimension => texture sample dimension
  | .sampler kind => sampler kind

structure LayoutEntry where
  index : Nat
  visibility : Stage
  type : BindingType
  deriving DecidableEq

end ShaderWeave
