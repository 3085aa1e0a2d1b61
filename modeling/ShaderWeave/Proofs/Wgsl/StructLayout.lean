import Mathlib.Algebra.Order.Ring.Nat
import Mathlib.Order.Bounds.Basic
import ShaderWeave.Wgsl.StructLayout

/-!
# The layout rule of structs

Each member lies at the least multiple of its alignment that is not below the end of the member before
it. Placing follows this rule, so members do not overlap. What is placed first does not depend on what
follows: a struct may be placed in two parts, the second one from the end of the first.
-/

namespace ShaderWeave.Wgsl

variable {start n align : Nat} {members xs ys : List (String × Numeric)} {ps : List Placement}
  {p : Placement}

/-! ## Rounding up -/

/-- `n` is the least multiple of the alignment that is not below `start`. -/
def RoundsUp (start align n : Nat) : Prop := IsLeast {k | align ∣ k ∧ start ≤ k} n

theorem roundsUp_alignUp (start : Nat) (h : 0 < align) : RoundsUp start align (alignUp start align) := by
  have hmod := Nat.mod_lt (start + align - 1) h
  have hdiv := Nat.div_add_mod' (start + align - 1) align
  refine ⟨⟨Nat.dvd_mul_left _ _, ?_⟩, ?_⟩
  · unfold alignUp
    omega
  · rintro k ⟨⟨c, rfl⟩, hle⟩
    rw [alignUp, Nat.mul_comm align c]
    refine Nat.mul_le_mul_right align (Nat.le_of_lt_succ ?_)
    rw [Nat.div_lt_iff_lt_mul h, Nat.succ_mul, Nat.mul_comm c align]
    omega

theorem le_alignUp (start : Nat) (h : 0 < align) : start ≤ alignUp start align :=
  (roundsUp_alignUp start h).1.2

theorem alignUp_le (h : 0 < align) (hdvd : align ∣ n) (hle : start ≤ n) : alignUp start align ≤ n :=
  (roundsUp_alignUp start h).2 ⟨hdvd, hle⟩

/-! ## Placing -/

/-- The members of a struct lie at these places by the rule, the first one at or after `start`. -/
inductive LaidOut : Nat → List (String × Numeric) → List Placement → Prop
  | nil (start : Nat) : LaidOut start [] []
  | cons {start offset : Nat} {type : Numeric} {members : List (String × Numeric)}
      {ps : List Placement} (name : String) (rounds : RoundsUp start type.align offset)
      (rest : LaidOut (offset + type.size) members ps) :
      LaidOut start ((name, type) :: members) (⟨name, offset, type.size⟩ :: ps)

theorem laidOut_place (start : Nat) (members : List (String × Numeric)) :
    LaidOut start members (place start members) := by
  induction members generalizing start with
  | nil => exact .nil start
  | cons m members ih => exact .cons m.1 (roundsUp_alignUp start m.2.align_pos) (ih _)

theorem LaidOut.le_offset (h : LaidOut start members ps) : ∀ p ∈ ps, start ≤ p.offset := by
  induction h with
  | nil => simp
  | cons name rounds rest ih =>
    rw [List.forall_mem_cons]
    refine ⟨rounds.1.2, ?_⟩
    intro p hp
    exact rounds.1.2.trans ((Nat.le_add_right _ _).trans (ih p hp))

/-- Each member ends before the next ones begin. -/
theorem LaidOut.disjoint (h : LaidOut start members ps) :
    ps.Pairwise fun p q => p.stop ≤ q.offset := by
  induction h with
  | nil => exact .nil
  | cons name rounds rest ih => exact List.pairwise_cons.mpr ⟨rest.le_offset, ih⟩

theorem map_name_place (start : Nat) (members : List (String × Numeric)) :
    (place start members).map Placement.name = members.map Prod.fst := by
  induction members generalizing start with
  | nil => rfl
  | cons m members ih => simp [place, ih]

/-! ## Parts of a struct -/

@[simp]
theorem placedEnd_nil (start : Nat) : placedEnd start [] = start := rfl

@[simp]
theorem placedEnd_cons (start : Nat) (p : Placement) (ps : List Placement) :
    placedEnd start (p :: ps) = placedEnd p.stop ps := by
  cases ps <;> simp [placedEnd, List.getLast?_cons]

theorem placedEnd_append (start : Nat) (ps qs : List Placement) :
    placedEnd start (ps ++ qs) = placedEnd (placedEnd start ps) qs := by
  induction ps generalizing start with
  | nil => rfl
  | cons p ps ih => rw [List.cons_append, placedEnd_cons, placedEnd_cons, ih]

theorem place_append (start : Nat) (xs ys : List (String × Numeric)) :
    place start (xs ++ ys) = place start xs ++ place (placedEnd start (place start xs)) ys := by
  induction xs generalizing start with
  | nil => rfl
  | cons x xs ih => simp [place, ih]

/-! ## Bounds -/

/-- The alignment of every type divides the largest one. -/
theorem Numeric.align_dvd (t : Numeric) : t.align ∣ 16 := by cases t <;> decide

theorem Numeric.size_le (t : Numeric) : t.size ≤ 64 := by cases t <;> decide

/-- A member takes up no more than a matrix does, whatever stands before it. -/
theorem alignUp_stop_le (start : Nat) (t : Numeric) :
    alignUp (alignUp start t.align + t.size) 16 ≤ alignUp start 16 + 64 := by
  obtain ⟨⟨hdvd, hle⟩, -⟩ := roundsUp_alignUp start (show 0 < 16 by decide)
  have hoffset : alignUp start t.align ≤ alignUp start 16 :=
    alignUp_le t.align_pos (t.align_dvd.trans hdvd) hle
  refine alignUp_le (by decide) (Nat.dvd_add hdvd (by decide)) ?_
  have := t.size_le
  omega

theorem alignUp_placedEnd_le (start : Nat) (members : List (String × Numeric)) :
    alignUp (placedEnd start (place start members)) 16 ≤ alignUp start 16 + 64 * members.length := by
  induction members generalizing start with
  | nil => simp [place]
  | cons m members ih =>
    obtain ⟨name, type⟩ := m
    rw [place, placedEnd_cons, List.length_cons]
    calc alignUp (placedEnd _ (place (alignUp start type.align + type.size) members)) 16
      _ ≤ alignUp (alignUp start type.align + type.size) 16 + 64 * members.length := ih _
      _ ≤ alignUp start 16 + 64 + 64 * members.length :=
        Nat.add_le_add_right (alignUp_stop_le start type) _
      _ = alignUp start 16 + 64 * (members.length + 1) := by omega

end ShaderWeave.Wgsl
