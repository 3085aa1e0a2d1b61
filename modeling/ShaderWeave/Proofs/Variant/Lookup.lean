import Mathlib.Order.Bounds.Basic
import ShaderWeave.Proofs.Variant.Run

/-!
# What requests and look-ups return

A request returns what the library composes at that moment, stored or not. A look-up goes by the key
alone, so it also finds variants under ids that no request accepts.
-/

namespace ShaderWeave.VariantStore

variable {s : VariantStore} {d : Device} {ids : List String} {v : Variant}

/-! ## Requests -/

theorem current_start (lib : Library) (d : Device) (calls : List Call) :
    Current (run (ofLibrary lib, d) calls).1 :=
  current_run (current_ofLibrary lib) calls

theorem getOrCreate_shader (h : Current s) (hvalid : ∀ id ∈ ids, IsFeatureId id) :
    (s.getOrCreate d ids).result.map Variant.shader = s.library.compose ids := by
  cases hget : s.get? ids with
  | some v =>
    rw [getOrCreate_of_stored hvalid hget, h.compose_of_get? hvalid hget]
    rfl
  | none =>
    cases hc : s.library.compose ids with
    | error e =>
      rw [(getOrCreate_of_failed hvalid hget hc).1]
      rfl
    | ok shader =>
      rw [(getOrCreate_of_composed hvalid hget hc).1]
      rfl

/-- An invalid id makes the request fail by the least one. -/
theorem getOrCreate_of_not_valid (d : Device) (h : ∃ id ∈ ids, ¬ IsFeatureId id) :
    ∃ id, IsLeast {x | x ∈ ids ∧ ¬ IsFeatureId x} id ∧
      (s.getOrCreate d ids).result = .error (.unknownFeature id none) := by
  obtain ⟨id, hid⟩ := Option.ne_none_iff_exists'.mp
    (mt find?_invalid_eq_none_iff.mp (by push Not; exact h))
  obtain ⟨hinvalid, l₁, l₂, hsplit, hbefore⟩ := List.find?_eq_some_iff_append.mp hid
  refine ⟨id, ⟨⟨?_, by simpa using hinvalid⟩, ?_⟩, by rw [getOrCreate_of_invalid hid]⟩
  · rw [← mem_canonicalIds, hsplit]
    simp
  · rintro x ⟨hx, hxinvalid⟩
    rw [← mem_canonicalIds, hsplit, List.mem_append, List.mem_cons] at hx
    rcases hx with hx | rfl | hx
    · exact absurd (hbefore x hx) (by simpa using hxinvalid)
    · exact le_rfl
    · -- What follows in the sorted list is greater.
      have hsorted := canonicalIds_sorted ids
      rw [hsplit] at hsorted
      exact ((List.pairwise_cons.mp (List.pairwise_append.mp hsorted).2.1).1 x hx).le

theorem compose_of_not_valid {lib : Library} (h : ∃ id ∈ ids, ¬ IsFeatureId id) :
    ∃ e, lib.compose ids = .error e := by
  obtain ⟨id, hid, hinvalid⟩ := h
  cases hc : lib.compose ids with
  | error e => exact ⟨e, rfl⟩
  | ok shader => exact absurd (Library.isFeatureId_of_compose hc id hid) hinvalid

/-- In every run, a request returns what the library composes now or fails as the composition does. -/
theorem getOrCreate_transparent (lib : Library) (start : Device) (calls : List Call) (d : Device)
    (ids : List String) :
    let s := (run (ofLibrary lib, start) calls).1
    ((∀ id ∈ ids, IsFeatureId id) →
      (s.getOrCreate d ids).result.map Variant.shader = s.library.compose ids) ∧
    ((∃ id ∈ ids, ¬ IsFeatureId id) →
      (∃ id, IsLeast {x | x ∈ ids ∧ ¬ IsFeatureId x} id ∧
        (s.getOrCreate d ids).result = .error (.unknownFeature id none)) ∧
      ∃ e, s.library.compose ids = .error e) ∧
    (∀ v ∈ s.variants, s.library.compose v.key.ids = .ok v.shader) ∧
    s.library = calls.foldl Call.library lib := by
  intro s
  have h : Current s := current_start lib start calls
  refine ⟨getOrCreate_shader h, ?_, h.composes, run_library _ calls⟩
  intro hinvalid
  exact ⟨getOrCreate_of_not_valid d hinvalid, compose_of_not_valid hinvalid⟩

/-! ## Look-ups -/

/-- The request finds its variant stored: it composes, compiles and changes nothing. -/
def Hits (s : VariantStore) (d : Device) (ids : List String) (v : Variant) : Prop :=
  s.getOrCreate d ids = { result := .ok v, state := (s, d), log := [.variantHit v.key] }

theorem hits_iff : s.Hits d ids v ↔ s.get? ids = some v ∧ ∀ id ∈ ids, IsFeatureId id := by
  constructor
  · intro h
    have hresult : (s.getOrCreate d ids).result = .ok v := by rw [h]
    have hstate : (s.getOrCreate d ids).state = (s, d) := by rw [h]
    obtain ⟨e, he, -⟩ | ⟨u, hvalid, hget, hu, -⟩ | ⟨shader, -, -, -, -, hst⟩ :=
      getOrCreate_cases s d ids
    · simp [he] at hresult
    · obtain rfl : u = v := by simpa [hu] using hresult
      exact ⟨hget, hvalid⟩
    · -- A variant was stored, so the store is another one.
      rw [hst] at hstate
      have hlength := congrArg (fun w => w.1.variants.length) hstate
      simp [store_variants] at hlength
  · rintro ⟨hget, hvalid⟩
    exact getOrCreate_of_stored hvalid hget

theorem contains_iff : s.contains ids = true ↔ ∃ v, s.get? ids = some v :=
  Option.isSome_iff_exists

theorem get?_congr {a b : List String} (h : RequestKey.ofIds a = .ofIds b) : s.get? a = s.get? b := by
  rw [VariantStore.get?, VariantStore.get?, h]

/-- A key is also that of its text, taken for one id. -/
theorem get?_text (h : Current s) (hv : v ∈ s.variants) : s.get? [v.key.text] = some v := by
  rw [h.get?_eq_some_iff]
  exact ⟨hv, by simp [RequestKey.ofIds, canonicalIds, insertId]⟩

theorem get?_iff_hits_iff (s : VariantStore) (d : Device) (ids : List String) :
    (∀ v, s.get? ids = some v ↔ s.Hits d ids v) ↔
      (∀ id ∈ ids, IsFeatureId id) ∨ s.contains ids = false := by
  constructor
  · intro hagree
    by_cases hfound : ∃ v, s.get? ids = some v
    · obtain ⟨v, hget⟩ := hfound
      exact .inl (hits_iff.mp ((hagree v).mp hget)).2
    · exact .inr (by simpa [← contains_iff] using hfound)
  · rintro (hvalid | hnone) v
    · rw [hits_iff]
      exact ⟨fun hget => ⟨hget, hvalid⟩, fun hget => hget.1⟩
    · have hget : s.get? ids ≠ some v := by
        intro hget
        rw [contains_iff.mpr ⟨v, hget⟩] at hnone
        simp at hnone
      rw [hits_iff]
      exact ⟨fun hv => absurd hv hget, fun hv => absurd hv.1 hget⟩

/-- A look-up finds what some request with the same key finds. -/
theorem get?_iff_exists_request (h : Current s) (d : Device) (ids : List String) (v : Variant) :
    s.get? ids = some v ↔ ∃ request, (∀ id ∈ request, IsFeatureId id) ∧
      RequestKey.ofIds request = .ofIds ids ∧ s.Hits d request v := by
  constructor
  · intro hget
    obtain ⟨hv, hkey⟩ := mem_of_get? hget
    have hsame : RequestKey.ofIds v.key.ids = .ofIds ids := by rw [h.ofIds_ids hv, hkey]
    have hvalid := h.isFeatureId hv
    exact ⟨v.key.ids, hvalid, hsame, hits_iff.mpr ⟨by rw [get?_congr hsame, hget], hvalid⟩⟩
  · rintro ⟨request, -, hsame, hhits⟩
    rw [← get?_congr hsame]
    exact (hits_iff.mp hhits).1

/-- In every run, the two look-ups agree with each other, and with the request if its ids can stand in a key
or nothing is found. -/
theorem lookups_agree_iff (lib : Library) (start : Device) (calls : List Call) (d : Device)
    (ids : List String) :
    let s := (run (ofLibrary lib, start) calls).1
    (s.contains ids = true ↔ ∃ v, s.get? ids = some v) ∧
    (∀ v, s.Hits d ids v ↔ s.get? ids = some v ∧ ∀ id ∈ ids, IsFeatureId id) ∧
    ((∀ v, s.get? ids = some v ↔ s.Hits d ids v) ↔
      (∀ id ∈ ids, IsFeatureId id) ∨ s.contains ids = false) ∧
    (∀ v, s.get? ids = some v ↔ ∃ request, (∀ id ∈ request, IsFeatureId id) ∧
      RequestKey.ofIds request = .ofIds ids ∧ s.Hits d request v) ∧
    ∀ v ∈ s.variants, s.get? [v.key.text] = some v := by
  intro s
  have h : Current s := current_start lib start calls
  exact ⟨contains_iff, fun _ => hits_iff, get?_iff_hits_iff s d ids,
    get?_iff_exists_request h d ids, fun _ hv => get?_text h hv⟩

/-- The look-up takes an id that is two joined ids for their request. -/
theorem contains_joined_ids :
    let s := (run (ofLibrary .blank, {})
      [⟨.register { id := "fog", stage := .fragment }, []⟩,
        ⟨.register { id := "haze", stage := .fragment }, []⟩, ⟨.request ["haze", "fog"], []⟩]).1
    s.contains ["fog+haze"] = true ∧ (s.getOrCreate {} ["fog+haze"]).result.toOption = none := by
  decide +kernel

end ShaderWeave.VariantStore
