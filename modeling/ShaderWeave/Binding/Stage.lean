/-! # The pipeline stages that a feature, and so its bindings, is active in -/

namespace ShaderWeave

inductive Stage
  | vertex
  | fragment
  | both
  deriving DecidableEq

namespace Stage

/-- The smallest set of stages with both. -/
def union (a b : Stage) : Stage := if a = b then a else both

def hasVertex : Stage → Bool
  | vertex | both => true
  | fragment => false

def hasFragment : Stage → Bool
  | fragment | both => true
  | vertex => false

/-- The set as a number: one for the vertex stage, two for the fragment stage. -/
def bits (s : Stage) : Nat := s.hasVertex.toNat + 2 * s.hasFragment.toNat

@[simp]
theorem hasVertex_union (a b : Stage) : (a.union b).hasVertex = (a.hasVertex || b.hasVertex) := by
  cases a <;> cases b <;> rfl

@[simp]
theorem hasFragment_union (a b : Stage) :
    (a.union b).hasFragment = (a.hasFragment || b.hasFragment) := by
  cases a <;> cases b <;> rfl

end Stage

end ShaderWeave
