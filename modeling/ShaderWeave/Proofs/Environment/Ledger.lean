import ShaderWeave.Environment.Layouts
import ShaderWeave.Proofs.Variant.Run

/-!
# The ledger of bind group layouts

A device tells layouts apart by their numbers alone, so which pipelines share a layout shows from what
each layout was made for. The ledger has a row for every layout made. No number occurs in it twice, and
no purpose. A period lasts until the environment forgets its layouts, and in every period a mask is
a purpose anew.
-/

namespace ShaderWeave

/-- Group 2 or group 3 of one pipeline, told by its number, or group 3 of all pipelines built in a period
for a mask. -/
inductive Purpose
  | noTextures (pipeline : Nat)
  | noEnvironment (pipeline : Nat)
  | mask (period : Nat) (mask : Mask)
  deriving DecidableEq

/-- The pipeline that alone has a layout made for the purpose. -/
def Purpose.pipeline? : Purpose → Option Nat
  | noTextures n | noEnvironment n => some n
  | mask .. => none

structure Made where
  purpose : Purpose
  layout : BindGroupLayout
  deriving DecidableEq

abbrev Ledger := List Made

/-! ## Making layouts -/

/-- The device makes these layouts one after another, and nothing else. -/
structure Device.Makes (d : Device) (rows : Ledger) (d' : Device) : Prop where
  device : d' = d.also { bindGroupLayouts := rows.length }
  numbers : rows.map (fun r => r.layout.id) = List.range' d.nextId rows.length

namespace Device.Makes

variable {d d' d'' : Device} {rows rows' : Ledger} {r : Made}

theorem nil (d : Device) : d.Makes [] d := ⟨rfl, rfl⟩

theorem one (d : Device) (purpose : Purpose) (label : String) (entries : List LayoutEntry) :
    d.Makes [⟨purpose, (d.createBindGroupLayout label entries).1⟩]
      (d.createBindGroupLayout label entries).2 := ⟨rfl, rfl⟩

theorem nextId (h : d.Makes rows d') : d'.nextId = d.nextId + rows.length := by
  rw [h.device, Device.nextId_also]
  simp [CallCounts.total]

theorem append (h : d.Makes rows d') (h' : d'.Makes rows' d'') : d.Makes (rows ++ rows') d'' := by
  refine ⟨?_, ?_⟩
  · rw [h'.device, h.device, Device.also_also, List.length_append]
    rfl
  · rw [List.map_append, h.numbers, h'.numbers, h.nextId, List.range'_append_1, List.length_append]

theorem number_bounds (h : d.Makes rows d') (hr : r ∈ rows) :
    d.nextId ≤ r.layout.id ∧ r.layout.id < d'.nextId := by
  have hmem : r.layout.id ∈ List.range' d.nextId rows.length := by
    rw [← h.numbers]
    exact List.mem_map_of_mem hr
  rw [List.mem_range'_1] at hmem
  rwa [h.nextId]

theorem numbers_nodup (h : d.Makes rows d') : (rows.map fun r => r.layout.id).Nodup := by
  rw [h.numbers]
  exact List.nodup_range'

end Device.Makes

/-! ## The ledger -/

/-- The purpose can have come up by now: the pipeline has a number that the device gave, and the period
has begun. -/
def Purpose.Past (d : Device) (period : Nat) : Purpose → Prop
  | noTextures n | noEnvironment n => n < d.nextId
  | mask p _ => p ≤ period

theorem Purpose.Past.mono {d d' : Device} {period period' : Nat} {purpose : Purpose}
    (h : purpose.Past d period) (hd : d.nextId ≤ d'.nextId) (hp : period ≤ period') :
    purpose.Past d' period' := by
  cases purpose <;> simp only [Past] at h ⊢ <;> omega

theorem Purpose.Past.pipeline_lt {d : Device} {period n : Nat} {purpose : Purpose}
    (h : purpose.Past d period) (hn : purpose.pipeline? = some n) : n < d.nextId := by
  cases purpose <;> simp only [pipeline?, Option.some.injEq, reduceCtorEq] at hn
  all_goals
    subst hn
    exact h

namespace Ledger

variable {first period period' : Nat} {ledger rows : Ledger} {d d' d'' : Device} {r r' : Made}

/-- Neither a number nor a purpose occurs twice. The numbers were given from `first` on. -/
structure Sound (ledger : Ledger) (first : Nat) (d : Device) (period : Nat) : Prop where
  numbers_nodup : (ledger.map fun r => r.layout.id).Nodup
  numbers_ge : ∀ r ∈ ledger, first ≤ r.layout.id
  numbers_lt : ∀ r ∈ ledger, r.layout.id < d.nextId
  purposes_nodup : (ledger.map Made.purpose).Nodup
  purposes_past : ∀ r ∈ ledger, r.purpose.Past d period

theorem sound_nil (d : Device) : Sound [] d.nextId d 0 := by constructor <;> simp

namespace Sound

theorem eq_of_number (h : Sound ledger first d period) (hr : r ∈ ledger) (hr' : r' ∈ ledger)
    (he : r.layout.id = r'.layout.id) : r = r' :=
  List.inj_on_of_nodup_map h.numbers_nodup hr hr' he

theorem eq_of_purpose (h : Sound ledger first d period) (hr : r ∈ ledger) (hr' : r' ∈ ledger)
    (he : r.purpose = r'.purpose) : r = r' :=
  List.inj_on_of_nodup_map h.purposes_nodup hr hr' he

theorem mono (h : Sound ledger first d period) (hd : d.nextId ≤ d'.nextId) (hp : period ≤ period') :
    Sound ledger first d' period' where
  numbers_nodup := h.numbers_nodup
  numbers_ge := h.numbers_ge
  numbers_lt r hr := (h.numbers_lt r hr).trans_le hd
  purposes_nodup := h.purposes_nodup
  purposes_past r hr := (h.purposes_past r hr).mono hd hp

/-- New layouts for purposes that have not come up before. Pipelines get their numbers after their
layouts, so the purposes are past only for the later device. -/
theorem append (h : Sound ledger first d period) (hfirst : first ≤ d.nextId)
    (hmakes : d.Makes rows d') (hd : d'.nextId ≤ d''.nextId)
    (hnodup : (rows.map Made.purpose).Nodup)
    (hnew : ∀ r ∈ rows, ∀ r' ∈ ledger, r'.purpose ≠ r.purpose)
    (hpast : ∀ r ∈ rows, r.purpose.Past d'' period) : Sound (ledger ++ rows) first d'' period := by
  have hgrows := hmakes.nextId
  have hmono : Sound ledger first d'' period := h.mono (by omega) le_rfl
  refine ⟨?numbers_nodup, ?numbers_ge, ?numbers_lt, ?purposes_nodup, ?purposes_past⟩
  case numbers_nodup =>
    rw [List.map_append, List.nodup_append]
    refine ⟨h.numbers_nodup, hmakes.numbers_nodup, ?_⟩
    simp only [List.forall_mem_map]
    intro r hr r' hr'
    exact ((h.numbers_lt r hr).trans_le (hmakes.number_bounds hr').1).ne
  case numbers_ge =>
    intro r hr
    rcases List.mem_append.mp hr with hr | hr
    · exact h.numbers_ge r hr
    · exact hfirst.trans (hmakes.number_bounds hr).1
  case numbers_lt =>
    intro r hr
    rcases List.mem_append.mp hr with hr | hr
    · exact hmono.numbers_lt r hr
    · exact (hmakes.number_bounds hr).2.trans_le hd
  case purposes_nodup =>
    rw [List.map_append, List.nodup_append]
    refine ⟨h.purposes_nodup, hnodup, ?_⟩
    simp only [List.forall_mem_map]
    intro r hr r' hr'
    exact hnew r' hr' r hr
  case purposes_past =>
    intro r hr
    rcases List.mem_append.mp hr with hr | hr
    · exact hmono.purposes_past r hr
    · exact hpast r hr

end Sound

/-! ## The table of the environment -/

/-- The table has what the ledger says was made for a mask in this period. -/
def Tables (ledger : Ledger) (period : Nat) (env : MaskLayouts) : Prop :=
  ∀ m l, env.get? m = some l ↔ ⟨.mask period m, l⟩ ∈ ledger

theorem tables_clear (h : Sound ledger first d period) (env : MaskLayouts) :
    Tables ledger (period + 1) env.clear := by
  intro m l
  refine ⟨fun hl => by simp [MaskLayouts.clear, MaskLayouts.get?] at hl, ?_⟩
  intro hr
  have hpast := h.purposes_past _ hr
  simp only [Purpose.Past] at hpast
  omega

theorem Tables.append {env : MaskLayouts} (h : Tables ledger period env)
    (hrows : ∀ r ∈ rows, ∀ m, r.purpose ≠ .mask period m) : Tables (ledger ++ rows) period env := by
  intro m l
  rw [h m l, List.mem_append, or_iff_left]
  exact fun hr => hrows _ hr m rfl

end Ledger

namespace MaskLayouts

variable {env : MaskLayouts} {d : Device} {m : Mask} {period : Nat} {ledger : Ledger}

/-- The row for a layout that was asked for, if it had to be made. -/
def made (env : MaskLayouts) (period : Nat) (m : Mask) (layout : BindGroupLayout) : Ledger :=
  if (env.get? m).isNone then [⟨.mask period m, layout⟩] else []

theorem mem_made_iff {layout : BindGroupLayout} {r : Made} :
    r ∈ env.made period m layout ↔ r = ⟨.mask period m, layout⟩ ∧ env.get? m = none := by
  unfold made
  split
  · next hmissing =>
    rw [Option.isNone_iff_eq_none] at hmissing
    rw [List.mem_singleton, and_iff_left hmissing]
  · next hkept =>
    rw [Option.isNone_iff_eq_none] at hkept
    simp [hkept]

theorem purposes_nodup_made (env : MaskLayouts) (period : Nat) (m : Mask) (layout : BindGroupLayout) :
    ((env.made period m layout).map Made.purpose).Nodup := by
  unfold made
  split <;> simp

theorem layoutFor_of_kept {l : BindGroupLayout} (h : env.get? m = some l) :
    env.layoutFor d m = { result := l, state := (env, d), log := [] } := by
  unfold layoutFor
  rw [h]

theorem layoutFor_of_missing (h : env.get? m = none) :
    ∃ label, (env.layoutFor d m).result = (d.createBindGroupLayout label m.layoutEntries).1 ∧
      (env.layoutFor d m).state.1.layouts = env.layouts ++ [(m, (env.layoutFor d m).result)] ∧
      (env.layoutFor d m).state.2 = (d.createBindGroupLayout label m.layoutEntries).2 := by
  unfold layoutFor
  rw [h]
  exact ⟨_, rfl, rfl, rfl⟩

theorem get?_layoutFor (env : MaskLayouts) (d : Device) (m k : Mask) :
    (env.layoutFor d m).state.1.get? k =
      if k = m then some (env.layoutFor d m).result else env.get? k := by
  cases h : env.get? m with
  | some l =>
    rw [layoutFor_of_kept h]
    split
    · next hk => rw [hk, h]
    · rfl
  | none =>
    obtain ⟨label, -, hlayouts, -⟩ := layoutFor_of_missing (d := d) h
    rw [get?, hlayouts, List.lookup_append]
    split
    · next hk =>
      rw [hk, show env.layouts.lookup m = none from h]
      simp
    · next hk => simp [get?, List.lookup_cons, beq_eq_false_iff_ne.mpr hk]

theorem layoutFor_makes (env : MaskLayouts) (d : Device) (m : Mask) (period : Nat) :
    d.Makes (env.made period m (env.layoutFor d m).result) (env.layoutFor d m).state.2 := by
  cases h : env.get? m with
  | some l =>
    rw [layoutFor_of_kept h]
    simpa [made, h] using Device.Makes.nil d
  | none =>
    obtain ⟨label, hresult, -, hdevice⟩ := layoutFor_of_missing (d := d) h
    rw [hresult, hdevice]
    simpa [made, h] using Device.Makes.one d (.mask period m) label m.layoutEntries

theorem tables_layoutFor (h : ledger.Tables period env) (d : Device) (m : Mask) :
    Ledger.Tables (ledger ++ env.made period m (env.layoutFor d m).result) period
      (env.layoutFor d m).state.1 := by
  intro k l
  rw [get?_layoutFor, List.mem_append, ← h k l]
  by_cases hk : k = m
  · subst hk
    cases hkept : env.get? k with
    | none => simp [made, hkept, eq_comm]
    | some x => simp [made, hkept, layoutFor_of_kept hkept]
  · have hmade : ⟨.mask period k, l⟩ ∉ env.made period m (env.layoutFor d m).result := by
      unfold made
      split <;> simp [hk]
    simp [hk, hmade]

end MaskLayouts

end ShaderWeave
