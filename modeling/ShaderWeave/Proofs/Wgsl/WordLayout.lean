import ShaderWeave.Proofs.Wgsl.StructLayout

/-!
# Layout in words

The layout computed in words of 32 bits, where a sum that needs more bits has no result. As long as a
struct stays small enough, all sums fit and words give the same places as numbers.
-/

namespace ShaderWeave.Wgsl.Word

/-! ## Sums -/

/-- The sum, unless it needs more than 32 bits. -/
def add? (a b : UInt32) : Option UInt32 :=
  if a.toNat + b.toNat < UInt32.size then some (a + b) else none

/-- The least multiple of `align` that is at least `n`. -/
def alignUp? (n align : UInt32) : Option UInt32 :=
  if n % align = 0 then some n else add? n (align - n % align)

structure Placement where
  name : String
  offset : UInt32
  size : UInt32

def Placement.toNat (p : Placement) : Wgsl.Placement := ⟨p.name, p.offset.toNat, p.size.toNat⟩

/-- Places members one after another, the first at or after `start`. -/
def place? (start : UInt32) : List (String × Numeric) → Option (List Placement)
  | [] => some []
  | (name, type) :: rest => do
    let offset ← alignUp? start (.ofNat type.align)
    let stop ← add? offset (.ofNat type.size)
    return ⟨name, offset, .ofNat type.size⟩ :: (← place? stop rest)

/-- The first byte after the members, or `start` if there are none. -/
def placedEnd? (start : UInt32) (ps : List Placement) : Option UInt32 :=
  match ps.getLast? with
  | none => some start
  | some p => add? p.offset p.size

/-! ## The same results -/

variable {members : List (String × Numeric)} {ps : List Placement}

theorem exists_add? (a b : UInt32) (h : a.toNat + b.toNat < UInt32.size) :
    ∃ c, add? a b = some c ∧ c.toNat = a.toNat + b.toNat :=
  ⟨a + b, if_pos h, by rw [UInt32.toNat_add, Nat.mod_eq_of_lt h]⟩

theorem alignUp_of_mod_ne_zero {n align : Nat} (h : 0 < align) (hmod : n % align ≠ 0) :
    alignUp n align = n + (align - n % align) := by
  have hlt := Nat.mod_lt n h
  have hsplit := Nat.div_add_mod n align
  have heq : n + (align - n % align) = align * (n / align + 1) := by
    rw [Nat.mul_succ]
    omega
  refine Nat.le_antisymm (alignUp_le h (heq ▸ Nat.dvd_mul_right _ _) (Nat.le_add_right _ _)) ?_
  obtain ⟨⟨⟨c, hc⟩, hle⟩, -⟩ := roundsUp_alignUp n h
  rw [heq, hc]
  -- A multiple that is not below `n` is above the last one below `n`.
  refine Nat.mul_le_mul_left align (Nat.lt_of_mul_lt_mul_left (a := align) ?_)
  omega

theorem exists_alignUp? (n align : UInt32) (h : 0 < align.toNat)
    (hfits : alignUp n.toNat align.toNat < UInt32.size) :
    ∃ c, alignUp? n align = some c ∧ c.toNat = alignUp n.toNat align.toNat := by
  have hmod : (n % align).toNat = n.toNat % align.toNat := UInt32.toNat_mod n align
  unfold alignUp?
  split
  · next hzero =>
    have hdvd : align.toNat ∣ n.toNat := by
      rw [hzero] at hmod
      exact Nat.dvd_of_mod_eq_zero hmod.symm
    exact ⟨n, rfl, Nat.le_antisymm (le_alignUp _ h) (alignUp_le h hdvd le_rfl)⟩
  · next hne =>
    have hne : n.toNat % align.toNat ≠ 0 := by
      rw [← hmod]
      exact fun hzero => hne (UInt32.toNat_inj.mp hzero)
    have hsub : (align - n % align).toNat = align.toNat - n.toNat % align.toNat := by
      rw [UInt32.toNat_sub_of_le, hmod]
      rw [UInt32.le_iff_toNat_le, hmod]
      exact (Nat.mod_lt _ h).le
    rw [alignUp_of_mod_ne_zero h hne, ← hsub] at hfits ⊢
    exact exists_add? n _ hfits

theorem toNat_align (t : Numeric) : (UInt32.ofNat t.align).toNat = t.align := by cases t <;> rfl

theorem toNat_size (t : Numeric) : (UInt32.ofNat t.size).toNat = t.size := by cases t <;> rfl

theorem exists_place? (start : UInt32) (members : List (String × Numeric))
    (h : alignUp start.toNat 16 + 64 * members.length < UInt32.size) :
    ∃ ps, place? start members = some ps ∧
      ps.map Placement.toNat = Wgsl.place start.toNat members := by
  induction members generalizing start with
  | nil => exact ⟨[], rfl, rfl⟩
  | cons m members ih =>
    obtain ⟨name, type⟩ := m
    rw [List.length_cons] at h
    have hstop := alignUp_stop_le start.toNat type
    have hle := le_alignUp (alignUp start.toNat type.align + type.size) (show 0 < 16 by decide)
    obtain ⟨offset, hoffset, hoffset'⟩ := exists_alignUp? start (.ofNat type.align)
      (by rw [toNat_align]; exact type.align_pos) (by rw [toNat_align]; omega)
    rw [toNat_align] at hoffset'
    obtain ⟨stop, hadd, hstop'⟩ := exists_add? offset (.ofNat type.size)
      (by rw [toNat_size]; omega)
    rw [toNat_size, hoffset'] at hstop'
    obtain ⟨ps, hps, hps'⟩ := ih stop (by rw [hstop']; omega)
    refine ⟨⟨name, offset, .ofNat type.size⟩ :: ps, by simp [place?, hoffset, hadd, hps], ?_⟩
    rw [List.map_cons, hps', hstop', Wgsl.place, Placement.toNat, toNat_size, hoffset']
    rfl

theorem exists_placedEnd? (start : UInt32) (ps : List Placement)
    (h : Wgsl.placedEnd start.toNat (ps.map Placement.toNat) < UInt32.size) :
    ∃ stop, placedEnd? start ps = some stop ∧
      stop.toNat = Wgsl.placedEnd start.toNat (ps.map Placement.toNat) := by
  unfold placedEnd?
  rw [Wgsl.placedEnd, List.getLast?_map] at h ⊢
  cases hlast : ps.getLast? with
  | none => exact ⟨start, rfl, rfl⟩
  | some p =>
    rw [hlast] at h
    exact exists_add? _ _ h

end ShaderWeave.Wgsl.Word
