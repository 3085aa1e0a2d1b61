import ShaderWeave.Proofs.Environment.Slots
import ShaderWeave.Proofs.Shader.Compatibility
import ShaderWeave.Proofs.Text.Occurrence

/-!
# The environment of a shader

The environment bindings of a shader are the slots whose names its features require, in the order of the
table. The source defines the structs of these slots, each once, and then declares the bindings.
-/

namespace ShaderWeave

/-! ## The order of the bindings -/

theorem Slot.eq_of_index_eq {s t : Slot} (hs : s ∈ Slot.table) (ht : t ∈ Slot.table)
    (h : s.index = t.index) : s = t := by
  have hplace := Slot.getElem?_table s hs
  rw [h, Slot.getElem?_table t ht] at hplace
  exact (Option.some.inj hplace).symm

namespace Bindings

variable {b b' : Bindings} {f : Feature} {q : Requirement} {features : List Feature}
  {done : List (Feature × Requirement)} {bs : List Binding}

def Ascending (bs : List Binding) : Prop := bs.Pairwise fun x y => x.index < y.index

theorem Ascending.insertByIndex {t : Binding} (h : Ascending bs) (hnew : ∀ x ∈ bs, x.index ≠ t.index) :
    Ascending (insertByIndex t bs) := by
  induction bs with
  | nil => exact List.pairwise_singleton _ _
  | cons x bs ih =>
    obtain ⟨hx, hbs⟩ := List.pairwise_cons.mp h
    rw [Bindings.insertByIndex]
    split
    · next hlt =>
      refine List.pairwise_cons.mpr ⟨?_, h⟩
      intro y hy
      rcases List.mem_cons.mp hy with rfl | hy
      · exact hlt
      · exact hlt.trans (hx y hy)
    · next hlt =>
      have hxt : x.index < t.index := by
        have := hnew x (by simp)
        omega
      refine List.pairwise_cons.mpr ⟨?_, ih hbs fun y hy => hnew y (by simp [hy])⟩
      intro y hy
      rcases List.mem_cons.mp ((insertByIndex_perm t bs).mem_iff.mp hy) with rfl | hy
      · exact hxt
      · exact hx y hy

theorem Ascending.concat (h : Ascending b.environment) (hgathered : Gathered done b)
    (hadd : b.Adds f q b') : Ascending b'.environment := by
  obtain ⟨-, ht⟩ | ⟨-, -, ht⟩ | ⟨slot, -, hfound, -, hnew, ht⟩ := hadd.environment_cases
  · rwa [ht]
  · rw [ht, widen_eq_map hgathered.environment.names_nodup, Ascending, List.pairwise_map]
    exact h.imp fun hlt => by rwa [(widened_keeps _ _ _).1, (widened_keeps _ _ _).1]
  · rw [ht]
    apply h.insertByIndex
    -- A binding with the index of the slot would have its name too.
    intro t htb hindex
    obtain ⟨s, hs, hname, hsindex, -⟩ := hgathered.slots t htb
    obtain rfl : s = slot :=
      Slot.eq_of_index_eq hs (Slot.mem_table_of_find? hfound) (hsindex.trans hindex)
    exact hnew t htb (hname.symm.trans (Slot.name_of_find? hfound))

theorem ascending_of_collect (h : collect features = .ok b) : Ascending b.environment := by
  have hboth := addAll_induction (P := fun done b => Gathered done b ∧ Ascending b.environment) []
    (fun done b f q b' hdone hadd => ⟨hdone.1.concat hadd, hdone.2.concat hdone.1 hadd⟩)
    ⟨gathered_empty, List.Pairwise.nil⟩ h
  exact hboth.2

end Bindings

variable {shader : Shader} {features : List Feature}

theorem Library.ascending_of_compose {lib : Library} {ids : List String}
    (h : lib.compose ids = .ok shader) : Bindings.Ascending shader.environment := by
  obtain ⟨features, -, hmade⟩ := exists_assembledFrom h
  exact Bindings.ascending_of_collect hmade.bindings

/-! ## The definitions -/

namespace Shader

def Declares (shader : Shader) (s : Slot) : Prop := s.name ∈ shader.environment.map Binding.name

/-- The declarations of the environment bindings in the source. -/
def environmentDeclarations (shader : Shader) : List String :=
  shader.environment.map fun t => t.kind.declaration 3 t.index t.name ++ ";"

theorem mem_structDefs_iff (shader : Shader) (d : String) :
    d ∈ Sections.structDefs shader.environment ↔
      ∃ s ∈ Slot.table, shader.Declares s ∧ s.structDef = some d := by
  simp only [Sections.structDefs, List.mem_eraseDups, List.mem_filterMap, Option.bind_eq_some_iff]
  constructor
  · rintro ⟨t, ht, s, hs, hd⟩
    have hname := Slot.name_of_find? hs
    exact ⟨s, Slot.mem_table_of_find? hs, List.mem_map.mpr ⟨t, ht, hname.symm⟩, hd⟩
  · rintro ⟨s, hs, hdeclares, hd⟩
    obtain ⟨t, ht, hname⟩ := List.mem_map.mp hdeclares
    exact ⟨t, ht, s, hname ▸ Slot.find?_name s hs, hd⟩

theorem eq_of_structDef : ∀ s ∈ Slot.table, ∀ s' ∈ Slot.table,
    s.structDef.isSome → s'.structDef.isSome → s = s' := by
  simp [Slot.table]

/-! A definition has one opening brace and a declaration has none. -/

theorem count_brace : ∀ s ∈ Slot.table, ∀ d ∈ s.structDef, d.toList.count '\x7b' = 1 := by
  -- The definition is read line by line, as its line feeds hide the written-out characters.
  have hlines : ∃ ls : List (List Char), Slot.cascadeUniforms = Text.unlines (ls.map String.ofList) ∧
      ls.flatten.count '\x7b' = 1 :=
    ⟨[_, _, _, _, _, _, _, _], rfl, by decide⟩
  obtain ⟨ls, hdef, hcount⟩ := hlines
  have hone : Slot.cascadeUniforms.toList.count '\x7b' = 1 := by
    rw [hdef, Text.count_unlines_ofList (by decide), hcount]
  simpa [Slot.table] using hone

theorem brace_notMem_slot : ∀ s ∈ Slot.table,
    '\x7b' ∉ s.name.toList ∧ '\x7b' ∉ s.kind.wgslType.toList := by
  simp [Slot.table, Kind.wgslType, Dimension.wgsl, Kind.textureCube, Kind.texture2d, Wgsl.ValueType.wgsl]

theorem brace_notMem_declaration {k : Kind} {name : String} (hname : '\x7b' ∉ name.toList)
    (htype : '\x7b' ∉ k.wgslType.toList) (group index : Nat) :
    '\x7b' ∉ (k.declaration group index name ++ ";").toList := by
  have hdigits (n : Nat) : '\x7b' ∉ Nat.toDigits 10 n := fun h =>
    absurd (Nat.isDigit_of_mem_toDigits (by decide) (by decide) h) (by decide)
  have hspace : '\x7b' ∉ k.space.toList := by
    cases k with
    | storage t readOnly => cases readOnly <;> simp [Kind.space, Kind.access]
    | _ => simp [Kind.space]
  have hdeclaration : k.declaration group index name =
      s!"@group({group}) @binding({index}) var{k.space} {name}: {k.wgslType}" := rfl
  rw [hdeclaration]
  simp [hname, htype, hspace, hdigits, toString]

theorem brace_notMem_declarations (h : shader.Tabled) :
    ∀ l ∈ shader.environmentDeclarations, '\x7b' ∉ l.toList := by
  rw [environmentDeclarations, List.forall_mem_map]
  intro t ht
  obtain ⟨s, hs, hname, -, hkind⟩ := h t ht
  obtain ⟨hbrace, htype⟩ := brace_notMem_slot s hs
  exact brace_notMem_declaration (hname ▸ hbrace) (hkind ▸ htype) _ _

/-- The source of the environment: the definitions that the declared slots need, each once, then the
declarations. -/
structure DefinesStructs (shader : Shader) (text : String) : Prop where
  parts : ∃ defs, text = Text.unlines (defs ++ shader.environmentDeclarations) ∧ defs.Nodup ∧
    ∀ d, d ∈ defs ↔ ∃ s ∈ Slot.table, shader.Declares s ∧ s.structDef = some d
  once : ∀ s ∈ Slot.table, ∀ d, s.structDef = some d → shader.Declares s → Text.OccursOnce d text
  absent : ∀ s ∈ Slot.table, ∀ d, s.structDef = some d → ¬ shader.Declares s →
    ¬ d.toList <:+: text.toList

theorem structDefs_eq_of_declares {s : Slot} {d : String} (hs : s ∈ Slot.table)
    (hd : s.structDef = some d) (hdeclares : shader.Declares s) :
    Sections.structDefs shader.environment = [d] := by
  have hnodup : (Sections.structDefs shader.environment).Nodup := FirstOccurrences.nodup_eraseDups _
  have hmem := (mem_structDefs_iff shader d).mpr ⟨s, hs, hdeclares, hd⟩
  have hall : ∀ x ∈ Sections.structDefs shader.environment, x = d := by
    intro x hx
    obtain ⟨s', hs', -, hx'⟩ := (mem_structDefs_iff shader x).mp hx
    obtain rfl := eq_of_structDef s hs s' hs' (by simp [hd]) (by simp [hx'])
    exact Option.some.inj (hx'.symm.trans hd)
  rw [List.eq_replicate_of_mem hall, List.nodup_replicate] at hnodup
  rw [List.eq_replicate_of_mem hall, le_antisymm hnodup (List.length_pos_of_mem hmem)]
  rfl

theorem definesStructs (h : shader.Tabled) :
    shader.DefinesStructs (Sections.environmentBindings shader.environment) := by
  have hbrace : '\x7b' ∉ (Text.unlines shader.environmentDeclarations).toList :=
    Text.notMem_unlines (by decide) (brace_notMem_declarations h)
  have hparts : Sections.environmentBindings shader.environment = Text.unlines
      (Sections.structDefs shader.environment ++ shader.environmentDeclarations) := rfl
  refine ⟨⟨_, hparts, FirstOccurrences.nodup_eraseDups _, mem_structDefs_iff shader⟩, ?once, ?absent⟩
  case once =>
    intro s hs d hd hdeclares
    have hdeclarations : shader.environmentDeclarations ≠ [] := by
      obtain ⟨t, ht, -⟩ := List.mem_map.mp hdeclares
      simpa [environmentDeclarations] using List.ne_nil_of_mem ht
    rw [hparts, structDefs_eq_of_declares hs hd hdeclares]
    refine Text.occursOnce_of_mark (Text.toList_unlines_cons hdeclarations) (count_brace s hs d hd) ?_
    simpa using hbrace
  case absent =>
    intro s hs d hd hnot hwithin
    -- There is no other slot with a definition, so the text has none.
    have hdefs : Sections.structDefs shader.environment = [] := by
      rw [List.eq_nil_iff_forall_not_mem]
      intro x hx
      obtain ⟨s', hs', hdeclares, hx'⟩ := (mem_structDefs_iff shader x).mp hx
      obtain rfl := eq_of_structDef s hs s' hs' (by simp [hd]) (by simp [hx'])
      exact hnot hdeclares
    rw [hparts, hdefs, List.nil_append] at hwithin
    have hmark : '\x7b' ∈ d.toList := List.count_pos_iff.mp (by rw [count_brace s hs d hd]; decide)
    exact hbrace (hwithin.subset hmark)

/-- The environment of a shader as the table has it, in its bindings, its mask and its source. -/
structure FollowsTable (shader : Shader) (features : List Feature) : Prop where
  ascending : Bindings.Ascending shader.environment
  tabled : shader.Tabled
  names : ∀ name, name ∈ shader.environment.map Binding.name ↔
    ∃ f ∈ features, Bindings.Requires f .environment name
  declared : ∀ t ∈ shader.environment, Bindings.DeclaredBy features .environment t
  mask : ∀ i, shader.declaredMask.has i ↔ ∃ t ∈ shader.environment, t.index = i
  source : shader.DefinesStructs (shader.sections features .environmentBindings)

end Shader

namespace Library

open Bindings

/-- The environment of a shader has the required slots of the table, in the order of their indices. -/
theorem compose_followsTable (lib : Library) (ids : List String) (shader : Shader)
    (h : lib.compose ids = .ok shader) :
    ∃ features, lib.resolve ids = .ok features ∧
      lib.template.fill (shader.sections features) = .ok shader.source ∧
      shader.FollowsTable features := by
  obtain ⟨features, hres, hmade⟩ := exists_assembledFrom h
  have hgathered := gathered_of_collect hmade.bindings
  have htabled : shader.Tabled := hgathered.slots
  refine ⟨features, hres, hmade.fill, ascending_of_collect hmade.bindings, htabled, ?_, ?_, ?_, ?_⟩
  · exact fun name => hgathered.environment.mem_names_iff
  · exact fun t ht => hgathered.environment.declaredBy ht
  · exact fun i => Shader.has_declaredMask_iff htabled
  · exact Shader.definesStructs htabled

def shade : Feature :=
  { id := "shade", stage := .fragment
    resources := Catalogue.slots ["cascadeUniforms", "cascadedShadowMap"] }

def casters : Feature :=
  { id := "casters", stage := .vertex, resources := Catalogue.slots ["brdfLut", "cascadeUniforms"]
    dependencies := ["shade"] }

def cast : Registry := ((Registry.empty.register shade).state.register casters).state

theorem compose_followsTable_casters :
    ∃ shader, (Marks.library cast).compose ["casters"] = .ok shader ∧
      shader.FollowsTable [shade, casters] ∧
      shader.environment.map (fun t => (t.name, t.index, t.visibility)) =
        [("cascadedShadowMap", 2, .fragment), ("cascadeUniforms", 3, .both), ("brdfLut", 6, .vertex)] ∧
      Text.OccursOnce Slot.cascadeUniforms
        (shader.sections [shade, casters] .environmentBindings) := by
  have hres : (Marks.library cast).resolve ["casters"] = .ok [shade, casters] := by decide +kernel
  have hplaces : ((Marks.library cast).resolve ["casters"] >>= collect).map (fun b =>
      b.environment.map fun t => (t.name, t.index, t.visibility)) = .ok
        [("cascadedShadowMap", 2, .fragment), ("cascadeUniforms", 3, .both), ("brdfLut", 6, .vertex)] := by
    decide +kernel
  obtain ⟨shader, hshader, hbindings⟩ := compose_base_of_map Marks.fillsBase hplaces
  obtain ⟨features, hfeatures, -, hfollows⟩ :=
    compose_followsTable (Marks.library cast) ["casters"] shader hshader
  obtain rfl : features = [shade, casters] := Except.ok.inj (hfeatures.symm.trans hres)
  refine ⟨shader, hshader, hfollows, hbindings, ?_⟩
  refine hfollows.source.once
    ⟨"cascadeUniforms", 3, .uniform (.struct "CascadeUniforms"), some Slot.cascadeUniforms⟩ ?_ _ rfl ?_
  · simp [Slot.table]
  · refine (hfollows.names "cascadeUniforms").mpr ⟨casters, by simp, ?_⟩
    unfold Requires
    decide +kernel

end Library

end ShaderWeave
