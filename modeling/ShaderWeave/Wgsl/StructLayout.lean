import ShaderWeave.Wgsl.ValueType

/-!
# Struct layout

Each member of a struct lies at the least multiple of its alignment that is not below the end of
the member before it.
-/

namespace ShaderWeave.Wgsl

/-- The least multiple of `align` that is at least `n`. -/
def alignUp (n align : Nat) : Nat := (n + align - 1) / align * align

structure Placement where
  name : String
  offset : Nat
  size : Nat
  deriving DecidableEq

namespace Placement

/-- The first byte after the member. -/
def stop (p : Placement) : Nat := p.offset + p.size

end Placement

/-- Places members one after another, the first at or after `start`. -/
def place (start : Nat) : List (String × Numeric) → List Placement
  | [] => []
  | (name, type) :: rest =>
    let p : Placement := ⟨name, alignUp start type.align, type.size⟩
    p :: place p.stop rest

/-- The first byte after the members, or `start` if there are none. -/
def placedEnd (start : Nat) (ps : List Placement) : Nat :=
  (ps.getLast?.map Placement.stop).getD start

end ShaderWeave.Wgsl
