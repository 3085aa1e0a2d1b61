import ShaderWeave.Environment.Slot

/-!
# What a feature needs of the environment

Each recognised feature contributes the bits of the slots it reads. Other ids contribute nothing,
whatever they declare.
-/

namespace ShaderWeave

namespace Mask

/-- The recognised features with the binding indices of their slots. -/
def capabilities : List (String × Mask) := [
  ("shadow", unions ([0, 1, 2, 3].map single)),
  ("ibl", unions ([4, 5, 6, 7, 8].map single)),
  ("ssr", unions ([9, 10].map single)),
  ("probes", unions ([11, 7].map single))]

/-- The union of the bits of all recognised features. -/
def ofFeatures (ids : List String) : Mask := unions (ids.filterMap fun id => capabilities.lookup id)

end Mask

end ShaderWeave
