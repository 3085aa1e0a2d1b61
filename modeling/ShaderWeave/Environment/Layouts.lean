import ShaderWeave.Device.Basic
import ShaderWeave.Environment.Slot
import ShaderWeave.Log

/-!
# Environment layouts

The shared environment keeps one bind group layout for each mask it was asked for, so that all
variants with the same mask are bound against the same layout.
-/

namespace ShaderWeave

structure MaskLayouts where
  layouts : List (Mask × BindGroupLayout) := []
  deriving DecidableEq

namespace MaskLayouts

def get? (e : MaskLayouts) (m : Mask) : Option BindGroupLayout := e.layouts.lookup m

def size (e : MaskLayouts) : Nat := e.layouts.length

/-- The layout for a mask, made on first use. -/
def layoutFor (e : MaskLayouts) (d : Device) (m : Mask) :
    Reply (MaskLayouts × Device) BindGroupLayout :=
  match e.get? m with
  | some layout => { result := layout, state := (e, d), log := [] }
  | none =>
    let made := d.createBindGroupLayout ("Environment Layout " ++ m.hexText) m.layoutEntries
    { result := made.1
      state := (⟨e.layouts ++ [(m, made.1)]⟩, made.2)
      log := [.environmentLayoutCreated m] }

/-- Forgets all layouts. What was built against them keeps them. -/
def clear (_ : MaskLayouts) : MaskLayouts := {}

end MaskLayouts

end ShaderWeave
