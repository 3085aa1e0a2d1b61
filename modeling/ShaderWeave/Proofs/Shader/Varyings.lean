import Mathlib.Data.List.Basic
import ShaderWeave.Proofs.List.FirstOccurrences
import ShaderWeave.Proofs.Wgsl.WordLayout
import ShaderWeave.Shader.Sections

/-!
# The section of the varyings

A name that features declare a varying of has one field, of the type of its first declaration. The fields
take the locations after those of the template without a gap: a declaration of a name that has a field
already changes nothing.
-/

namespace ShaderWeave.Sections

open FirstOccurrences Wgsl

variable {features fewer : List Feature} {vs seen : List Varying} {v : Varying}

/-! ## First declarations -/

/-- The varyings of features in the order of their declaration. -/
def declaredVaryings (features : List Feature) : List Varying := features.flatMap Feature.varyings

/-- The first declaration of each name, in the order in which the names are first declared. -/
def firstDeclarations (vs : List Varying) : List Varying :=
  (vs.map Varying.name).eraseDups.filterMap fun name => vs.find? (·.name == name)

theorem exists_find?_name (h : v ∈ vs) : ∃ first, vs.find? (·.name == v.name) = some first :=
  Option.isSome_iff_exists.mp (List.find?_isSome.mpr ⟨v, h, by simp⟩)

theorem find?_of_mem_firstDeclarations (h : v ∈ firstDeclarations vs) :
    vs.find? (·.name == v.name) = some v := by
  obtain ⟨name, -, hfind⟩ := List.mem_filterMap.mp h
  obtain rfl : v.name = name := by simpa using List.find?_some hfind
  exact hfind

theorem names_firstDeclarations (vs : List Varying) :
    (firstDeclarations vs).map Varying.name = (vs.map Varying.name).eraseDups := by
  have hname : ∀ name ∈ (vs.map Varying.name).eraseDups,
      (vs.find? (·.name == name)).map Varying.name = some name := by
    intro name hmem
    obtain ⟨w, hw, rfl⟩ := List.mem_map.mp (List.mem_eraseDups.mp hmem)
    obtain ⟨v, hv⟩ := exists_find?_name hw
    rw [hv, Option.map_some, show v.name = w.name by simpa using List.find?_some hv]
  rw [firstDeclarations, List.map_filterMap, List.filterMap_congr hname, List.filterMap_some]

theorem find?_name (h : (vs.map Varying.name).Nodup) (hv : v ∈ vs) :
    vs.find? (·.name == v.name) = some v := by
  induction vs with
  | nil => simp at hv
  | cons w vs ih =>
    obtain ⟨hw, hvs⟩ := List.nodup_cons.mp h
    rcases List.mem_cons.mp hv with rfl | hv
    · simp
    · have hne : w.name ≠ v.name := fun hname => hw (hname ▸ List.mem_map_of_mem hv)
      rw [List.find?_cons_of_neg (by simpa using hne)]
      exact ih hvs hv

theorem firstDeclarations_of_nodup (h : (vs.map Varying.name).Nodup) : firstDeclarations vs = vs := by
  calc firstDeclarations vs = vs.filterMap fun v => vs.find? (·.name == v.name) := by
        rw [firstDeclarations, eraseDups_of_nodup h, List.filterMap_map]
        rfl
    _ = vs.filterMap some := List.filterMap_congr fun v hv => find?_name h hv
    _ = vs := List.filterMap_some

/-- A declaration of a name that was declared before is passed over. -/
theorem firstDeclarations_redeclared (h : v.name ∈ vs.map Varying.name) (ws : List Varying) :
    firstDeclarations (vs ++ v :: ws) = firstDeclarations (vs ++ ws) := by
  have hnames : ((vs ++ v :: ws).map Varying.name).eraseDups = ((vs ++ ws).map Varying.name).eraseDups := by
    rw [List.map_append, List.map_append, List.map_cons, List.append_cons, ← eraseDups_append_left,
      eraseDups_concat, if_pos h, List.append_nil, eraseDups_append_left]
  have hfind (name : String) : (vs ++ v :: ws).find? (·.name == name) = (vs ++ ws).find? (·.name == name) := by
    obtain ⟨w, hw, hwv⟩ := List.mem_map.mp h
    rw [List.find?_append, List.find?_append]
    by_cases hname : v.name = name
    · obtain ⟨x, hx⟩ := exists_find?_name hw
      rw [← hname, ← hwv, hx, Option.some_or, Option.some_or]
    · rw [List.find?_cons_of_neg (by simpa using hname)]
  rw [firstDeclarations, firstDeclarations, hnames]
  exact List.filterMap_congr fun name _ => hfind name

theorem firstVaryings_eq (h : (seen.map Varying.name).Nodup) (declared : List (Feature × Varying)) :
    firstVaryings seen declared = firstDeclarations (seen ++ declared.map Prod.snd) := by
  -- `seen` grows only by new names, so it stays without repetition.
  induction declared generalizing seen with
  | nil => rw [List.map_nil, List.append_nil, firstDeclarations_of_nodup h, firstVaryings]
  | cons p declared ih =>
    obtain ⟨f, v⟩ := p
    rw [firstVaryings, List.map_cons]
    split
    · next hseen => rw [ih h, firstDeclarations_redeclared (by simpa using hseen)]
    · next hnew =>
      have hseen : ((seen ++ [v]).map Varying.name).Nodup := by
        simpa [List.nodup_append, h] using hnew
      rw [ih hseen, ← List.append_cons]

theorem map_snd_allVaryings (features : List Feature) :
    (allVaryings features).map Prod.snd = declaredVaryings features := by
  simp [allVaryings, declaredVaryings, List.map_flatMap, Function.comp_def]

theorem firstVaryings_allVaryings (features : List Feature) :
    firstVaryings [] (allVaryings features) = firstDeclarations (declaredVaryings features) := by
  rw [firstVaryings_eq (by simp), map_snd_allVaryings, List.nil_append]

/-! ## Declarations of a name that has a field -/

/-- The second features are the first ones without one varying, of a name that was declared before. -/
inductive Forgets : List Feature → List Feature → Prop
  | varying (before : List Feature) (f : Feature) (early : List Varying) (v : Varying) (late : List Varying)
      (after : List Feature) (again : v.name ∈ (declaredVaryings before ++ early).map Varying.name) :
      Forgets (before ++ { f with varyings := early ++ v :: late } :: after)
        (before ++ { f with varyings := early ++ late } :: after)

theorem firstDeclarations_of_forgets (h : Forgets features fewer) :
    firstDeclarations (declaredVaryings features) = firstDeclarations (declaredVaryings fewer) := by
  obtain ⟨before, f, early, v, late, after, again⟩ := h
  simpa [declaredVaryings] using firstDeclarations_redeclared again (late ++ declaredVaryings after)

/-! ## The fields -/

/-- Integers are not interpolated. -/
def interpolation (type : ValueType) : String :=
  if type = .numeric .i32 ∨ type = .numeric .u32 then " @interpolate(flat)" else ""

def fieldAt (i : Nat) (v : Varying) : String :=
  "    @location(" ++ toString (3 + i) ++ ")" ++ interpolation v.type ++ " " ++ v.name ++ ": " ++
    v.type.wgsl ++ ",\n"

theorem interpolation_eq (type : ValueType) :
    interpolation type = if type.isInteger then " @interpolate(flat)" else "" := by
  rcases type with type | name
  · cases type <;> rfl
  · simp [interpolation, ValueType.isInteger]

theorem varyingField_eq (v : Varying) (i : Nat) : varyingField v i = fieldAt i v := by
  rw [← String.toList_inj]
  unfold varyingField fieldAt baseVaryingLocations
  rw [interpolation_eq]
  simp [toString]

theorem varyings_eq (features : List Feature) :
    varyings features =
      String.join ((firstDeclarations (declaredVaryings features)).mapIdx fieldAt) := by
  rw [varyings, firstVaryings_allVaryings]
  simp only [varyingField_eq]

theorem exists_location {n i : Nat} (hn : n < 2 ^ 32 - 3) (hi : i < n) :
    ∃ location, Word.add? (.ofNat baseVaryingLocations) (.ofNat i) = some location ∧
      location.toNat = 3 + i := by
  have hsize : 3 + i < UInt32.size := by
    have : UInt32.size = 2 ^ 32 := rfl
    omega
  have hword : (UInt32.ofNat i).toNat = i := UInt32.toNat_ofNat_of_lt' (by omega)
  have hsum : (UInt32.ofNat baseVaryingLocations).toNat + (UInt32.ofNat i).toNat = 3 + i := by
    rw [hword]
    rfl
  obtain ⟨location, hadd, hnat⟩ := Word.exists_add? (.ofNat baseVaryingLocations) (.ofNat i) (hsum ▸ hsize)
  exact ⟨location, hadd, hnat.trans hsum⟩

/-- The section of the varyings, with `fields` for the varyings of features. -/
structure Declares (text : String) (features : List Feature) (fields : List Varying) : Prop where
  names : fields.map Varying.name = ((declaredVaryings features).map Varying.name).eraseDups
  first : ∀ v ∈ fields, (declaredVaryings features).find? (·.name == v.name) = some v
  text_eq : text = String.join (fields.mapIdx fieldAt)
  locations : fields.length < 2 ^ 32 - 3 → ∀ i < fields.length,
    ∃ location, Word.add? (.ofNat baseVaryingLocations) (.ofNat i) = some location ∧
      location.toNat = 3 + i

theorem declares_varyings (features : List Feature) :
    Declares (varyings features) features (firstDeclarations (declaredVaryings features)) where
  names := names_firstDeclarations _
  first _ := find?_of_mem_firstDeclarations
  text_eq := varyings_eq features
  locations hn _ hi := exists_location hn hi

/-- The section of the varyings has one field for each name, with the type of its first declaration, at the
locations from three on. -/
theorem generate_varyings (features : List Feature) (b : Bindings) :
    ∃ fields, Declares (generate features b .varyings) features fields ∧
      ∀ fewer, Forgets features fewer →
        Declares (generate features b .varyings) fewer fields ∧
          generate fewer b .varyings = generate features b .varyings := by
  refine ⟨_, declares_varyings features, fun fewer hforgets => ?_⟩
  have hfields := firstDeclarations_of_forgets hforgets
  have hsection : varyings fewer = varyings features := by rw [varyings_eq, varyings_eq, hfields]
  exact ⟨by simpa only [generate, hsection, hfields] using declares_varyings fewer, hsection⟩

/-- The cell keeps its number though the depth is declared again, with another type. -/
example : varyings
    [{ id := "rain", stage := .vertex, varyings := [⟨"depth", .numeric .f32⟩] },
      { id := "puddles", stage := .both
        varyings := [⟨"depth", .numeric .i32⟩, ⟨"cell", .numeric .u32⟩] }] =
    "    @location(3) depth: f32,\n    @location(4) @interpolate(flat) cell: u32,\n" := by
  decide +kernel

end ShaderWeave.Sections
