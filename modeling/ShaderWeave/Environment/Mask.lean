import ShaderWeave.Text.Hex

/-!
# Capability masks

A mask is a set of the twelve slots of the environment table, one bit a slot. Bits beyond the
table cannot be written down.
-/

namespace ShaderWeave

structure Mask where
  bits : BitVec 12
  deriving DecidableEq

namespace Mask

def empty : Mask := ⟨0⟩

/-- The mask with the bits of a number, as far as slots have them. -/
def ofNat (n : Nat) : Mask := ⟨BitVec.ofNat 12 n⟩

def toNat (m : Mask) : Nat := m.bits.toNat

/-- The mask of one binding index alone. -/
def single (binding : Nat) : Mask := ⟨BitVec.twoPow 12 binding⟩

def union (a b : Mask) : Mask := ⟨a.bits ||| b.bits⟩

/-- The bits of `a` that `b` lacks. -/
def difference (a b : Mask) : Mask := ⟨a.bits &&& ~~~b.bits⟩

/-- Whether the bit of a binding index is set. -/
def has (m : Mask) (binding : Nat) : Bool := m.bits.getLsbD binding

def isEmpty (m : Mask) : Bool := m == empty

/-- Folds the union over a list. -/
def unions (ms : List Mask) : Mask := ms.foldl union empty

/-- The number with four hexadecimal digits, as messages and labels show it. -/
def hexText (m : Mask) : String := "0x" ++ Text.hex 4 m.toNat

/-- The names of the bits, from the lowest on. -/
def bitNames : List String :=
  ["SHADOW_MAP", "SHADOW_SAMPLER", "CASCADED_SHADOW_MAP", "CASCADE_UNIFORMS", "DIFFUSE_CUBEMAP",
    "SPECULAR_CUBEMAP", "BRDF_LUT", "CUBEMAP_SAMPLER", "BRDF_SAMPLER", "SSR_TEXTURE",
    "SSR_SAMPLER", "PROBE_CUBEMAP"]

/-- The names of the set bits, for diagnosis. -/
def debug (m : Mask) : String :=
  let names := (bitNames.zipIdx.filter fun n => m.has n.2).map Prod.fst
  "EnvironmentMask(" ++ (if names.isEmpty then "0x0" else " | ".intercalate names) ++ ")"

@[simp]
theorem has_empty (i : Nat) : empty.has i = false := by simp [has, empty]

@[simp]
theorem has_union (a b : Mask) (i : Nat) : (a.union b).has i = (a.has i || b.has i) := by
  simp [has, union]

@[simp]
theorem has_single (b i : Nat) (h : b < 12) : (single b).has i = decide (b = i) := by
  simp [has, single, h]

theorem ext_has {a b : Mask} (h : ∀ i < 12, a.has i = b.has i) : a = b := by
  obtain ⟨x⟩ := a
  obtain ⟨y⟩ := b
  congr 1
  exact BitVec.eq_of_getLsbD_eq h

end Mask

end ShaderWeave
