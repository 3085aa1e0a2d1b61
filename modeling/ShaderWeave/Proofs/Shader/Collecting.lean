import ShaderWeave.Shader.Bindings

/-!
# Compatible requirements

Requirements have bindings together if each may stand where it does and no two of them want one
resource to be of two kinds. Collecting compares a requirement with the first one for its resource
only; that says as much as comparing all pairs, because those before it agree already.
-/

namespace ShaderWeave

open Wgsl

theorem Slot.find?_name : ∀ s ∈ Slot.table, Slot.find? s.name = some s := by
  simp [Slot.table, Slot.find?]

theorem Slot.eq_of_name_eq {s t : Slot} (hs : s ∈ Slot.table) (ht : t ∈ Slot.table)
    (h : s.name = t.name) : s = t := by
  have hfind := Slot.find?_name s hs
  rw [h, Slot.find?_name t ht] at hfind
  exact (Option.some.inj hfind).symm

theorem Uniforms.lookup_baseFields :
    ∀ p ∈ Uniforms.baseFields, Uniforms.baseFields.lookup p.1 = some p.2 := by
  decide

namespace Bindings

variable {b b' : Bindings} {f : Feature} {q : Requirement} {features : List Feature}
  {done rest reqs : List (Feature × Requirement)} {group : Group} {name owner : String}
  {kind : Kind} {first first' : Option (String × Kind)} {e : ShaderError}

/-! ## Compatibility -/

/-- A requirement that may stand where it does, whatever else is required. -/
structure Admissible (q : Requirement) : Prop where
  uniform : q.group = .perObject → ∃ type, q.kind = .uniform (.numeric type)
  base : q.group = .perObject → ∀ type, (q.name, type) ∈ Uniforms.baseFields →
    q.kind = .uniform (.numeric type)
  texture : q.group = .textures → ∀ name, q.kind ≠ .uniform (.struct name)
  environment : q.group = .environment → ∃ s ∈ Slot.table, s.name = q.name ∧ s.kind = q.kind

theorem admissible_of_perObject {type : Numeric} (hg : q.group = .perObject)
    (hkind : q.kind = .uniform (.numeric type))
    (hbase : ∀ base, (q.name, base) ∈ Uniforms.baseFields → base = type) : Admissible q where
  uniform _ := ⟨type, hkind⟩
  base := by
    intro _ base hfield
    rw [hkind, hbase base hfield]
  texture h := by simp [hg] at h
  environment h := by simp [hg] at h

structure Compatible (reqs : List (Feature × Requirement)) : Prop where
  admissible : ∀ p ∈ reqs, Admissible p.2
  agree : ∀ p ∈ reqs, ∀ p' ∈ reqs, p.2.name = p'.2.name → p.2.group = p'.2.group →
    p.2.kind = p'.2.kind

theorem Compatible.mono (h : Compatible reqs) (hsub : done ⊆ reqs) : Compatible done where
  admissible p hp := h.admissible p (hsub hp)
  agree p hp p' hp' := h.agree p (hsub hp) p' (hsub hp')

theorem Compatible.concat (h : Compatible done) (hq : Admissible q)
    (hagree : ∀ p ∈ done, p.2.name = q.name → p.2.group = q.group → p.2.kind = q.kind) :
    Compatible (done ++ [(f, q)]) where
  admissible := by
    intro p hp
    rcases List.mem_append.mp hp with hp | hp
    · exact h.admissible p hp
    · rw [List.mem_singleton.mp hp]
      exact hq
  agree := by
    intro p hp p' hp' hname hgroup
    rcases List.mem_append.mp hp with hp | hp <;> rcases List.mem_append.mp hp' with hp' | hp'
    · exact h.agree p hp p' hp' hname hgroup
    · rw [List.mem_singleton.mp hp'] at hname hgroup ⊢
      exact hagree p hp hname hgroup
    · rw [List.mem_singleton.mp hp] at hname hgroup ⊢
      exact (hagree p' hp' hname.symm hgroup.symm).symm
    · rw [List.mem_singleton.mp hp, List.mem_singleton.mp hp']

/-- A resource whose kind only its first declaration settles. The base fields and the environment
table settle all others. -/
def Free : Group → String → Prop
  | .perObject, name => ∀ type, (name, type) ∉ Uniforms.baseFields
  | .textures, _ => True
  | .environment, _ => False

theorem kind_eq_of_not_free {p : Requirement} (hp : Admissible p) (hq : Admissible q)
    (hname : p.name = q.name) (hgroup : p.group = q.group) (hfree : ¬ Free q.group q.name) :
    p.kind = q.kind := by
  cases hg : q.group with
  | perObject =>
    rw [hg] at hgroup hfree
    obtain ⟨type, htype⟩ : ∃ type, (q.name, type) ∈ Uniforms.baseFields := by
      simpa [Free] using hfree
    rw [hq.base hg type htype]
    exact hp.base hgroup type (hname ▸ htype)
  | textures => simp [hg, Free] at hfree
  | environment =>
    rw [hg] at hgroup
    obtain ⟨s, hs, hsname, hskind⟩ := hp.environment hgroup
    obtain ⟨t, ht, htname, htkind⟩ := hq.environment hg
    have hst : s = t := Slot.eq_of_name_eq hs ht (by rw [hsname, htname, hname])
    rw [← hskind, ← htkind, hst]

/-! ## First declarations -/

/-- The first feature that declares a resource, with the kind that it first declares it as. -/
def firstDeclared? (features : List Feature) (group : Group) (name : String) :
    Option (String × Kind) :=
  features.findSome? fun f =>
    (f.resources.find? fun q => q.group = group ∧ q.name = name).map fun q => (f.id, q.kind)

def firstRequired? (reqs : List (Feature × Requirement)) (group : Group) (name : String) :
    Option (String × Kind) :=
  (reqs.find? fun p => p.2.group = group ∧ p.2.name = name).map fun p => (p.1.id, p.2.kind)

theorem firstRequired?_requirements (features : List Feature) :
    firstRequired? (requirements features) = firstDeclared? features := by
  funext group name
  simp only [firstRequired?, requirements, firstDeclared?, List.find?_flatMap, List.find?_map,
    List.map_findSome?]
  congr 1
  funext f
  simp [Function.comp_def]

theorem firstRequired?_append : firstRequired? (done ++ rest) group name =
    (firstRequired? done group name).or (firstRequired? rest group name) := by
  simp only [firstRequired?, List.find?_append, Option.map_or]

theorem firstRequired?_singleton : firstRequired? [(f, q)] group name =
    if q.group = group ∧ q.name = name then some (f.id, q.kind) else none := by
  simp only [firstRequired?, List.find?_singleton]
  split <;> simp_all

theorem exists_of_firstRequired? (h : firstRequired? reqs group name = some (owner, kind)) :
    ∃ p ∈ reqs, p.2.group = group ∧ p.2.name = name ∧ p.2.kind = kind := by
  obtain ⟨p, hp, hpeq⟩ := Option.map_eq_some_iff.mp h
  have hsame := List.find?_some hp
  simp only [decide_eq_true_eq] at hsame
  exact ⟨p, List.mem_of_find?_eq_some hp, hsame.1, hsame.2, congrArg Prod.snd hpeq⟩

theorem exists_firstRequired? {p : Feature × Requirement} (hp : p ∈ reqs) :
    ∃ owner kind, firstRequired? reqs p.2.group p.2.name = some (owner, kind) := by
  cases hfirst : firstRequired? reqs p.2.group p.2.name with
  | some x => exact ⟨x.1, x.2, rfl⟩
  | none =>
    rw [firstRequired?, Option.map_eq_none_iff, List.find?_eq_none] at hfirst
    simpa using hfirst p hp

/-! ## Refusals -/

/-- The error for a requirement that does not fit. `first` is the feature that declares its resource
first, with the kind it has there. -/
inductive Refusal (first : Option (String × Kind)) (f : Feature) (q : Requirement) :
    ShaderError → Prop
  | notNumeric (group : q.group = .perObject) (kind : ∀ type, q.kind ≠ .uniform (.numeric type)) :
      Refusal first f q (.invalidPerObjectResource f.id q.name)
  | structUniform {name : String} (group : q.group = .textures)
      (kind : q.kind = .uniform (.struct name)) :
      Refusal first f q (.invalidTextureResource f.id q.name)
  | noSlot (group : q.group = .environment) (name : ∀ s ∈ Slot.table, s.name ≠ q.name) :
      Refusal first f q (.unknownEnvironmentResource f.id q.name)
  | otherSlotKind {s : Slot} (group : q.group = .environment) (slot : s ∈ Slot.table)
      (name : s.name = q.name) (kind : s.kind ≠ q.kind) :
      Refusal first f q (.environmentTypeMismatch f.id q.name s.kind q.kind)
  | otherBaseType {base type : Numeric} (group : q.group = .perObject)
      (field : (q.name, base) ∈ Uniforms.baseFields) (kind : q.kind = .uniform (.numeric type))
      (differs : base ≠ type) :
      Refusal first f q (.resourceTypeConflict f.id baseOwner q.name .perObject
        (.uniform (.numeric base)) q.kind)
  | otherKind {owner : String} {kind : Kind} (admissible : Admissible q)
      (free : Free q.group q.name) (declared : first = some (owner, kind))
      (differs : kind ≠ q.kind) :
      Refusal first f q (.resourceTypeConflict f.id owner q.name q.group kind q.kind)

namespace Refusal

theorem mono (h : Refusal first f q e)
    (hfirst : Free q.group q.name → ∀ x, first = some x → first' = some x) :
    Refusal first' f q e := by
  cases h with
  | notNumeric group kind => exact .notNumeric group kind
  | structUniform group kind => exact .structUniform group kind
  | noSlot group name => exact .noSlot group name
  | otherSlotKind group slot name kind => exact .otherSlotKind group slot name kind
  | otherBaseType group field kind differs => exact .otherBaseType group field kind differs
  | otherKind admissible free declared differs =>
    exact .otherKind admissible free (hfirst free _ declared) differs

theorem not_compatible (h : Refusal (firstRequired? done q.group q.name) f q e) :
    ¬ Compatible (done ++ [(f, q)]) := by
  intro hcompatible
  have hq : Admissible q := hcompatible.admissible (f, q) (by simp)
  cases h with
  | notNumeric group kind =>
    obtain ⟨type, htype⟩ := hq.uniform group
    exact kind type htype
  | structUniform group kind => exact hq.texture group _ kind
  | noSlot group name =>
    obtain ⟨s, hs, hname, -⟩ := hq.environment group
    exact name s hs hname
  | @otherSlotKind s group slot name kind =>
    obtain ⟨t, ht, htname, htkind⟩ := hq.environment group
    have hst : s = t := Slot.eq_of_name_eq slot ht (by rw [name, htname])
    exact kind (by rw [hst, htkind])
  | otherBaseType group field kind differs =>
    have hbase := hq.base group _ field
    rw [kind] at hbase
    exact differs (by simpa using hbase.symm)
  | otherKind _ _ declared differs =>
    -- The first declaration and `q` are the two that differ.
    obtain ⟨p, hp, hgroup, hname, hkind⟩ := exists_of_firstRequired? declared
    have hsame := hcompatible.agree p (List.mem_append_left _ hp) (f, q) (by simp) hname hgroup
    exact differs (hkind ▸ hsame)

end Refusal

/-! ## One requirement -/

/-- What the bindings hold for a resource: the feature it is bound for, and its kind. -/
def held? (b : Bindings) : Group → String → Option (String × Kind)
  | .perObject, name =>
    (b.uniforms.find? (·.name == name)).map fun u => (u.feature, .uniform (.numeric u.type))
  | .textures, name => (b.textures.find? (·.name == name)).map fun t => (t.feature, t.kind)
  | .environment, _ => none

theorem map_find?_widen (name name' : String) (stage : Stage) (bs : List Binding) :
    ((widen name stage bs).find? (·.name == name')).map (fun t => (t.feature, t.kind)) =
      (bs.find? (·.name == name')).map fun t => (t.feature, t.kind) := by
  induction bs with
  | nil => rfl
  | cons t bs ih =>
    rw [widen]
    split
    · simp only [List.find?_cons]
      cases t.name == name' <;> rfl
    · simp only [List.find?_cons]
      cases t.name == name' with
      | true => rfl
      | false => exact ih

/-- What a requirement that fits does to the bindings. -/
structure Added (b : Bindings) (f : Feature) (q : Requirement) (b' : Bindings) : Prop where
  admissible : Admissible q
  agrees : Free q.group q.name → ∀ owner kind, b.held? q.group q.name = some (owner, kind) →
    kind = q.kind
  held : ∀ group name, Free group name →
    b'.held? group name = (b.held? group name).or (firstRequired? [(f, q)] group name)

/-- What comes of one more requirement. -/
def Outcome (b : Bindings) (f : Feature) (q : Requirement) : Except ShaderError Bindings → Prop
  | .ok b' => b.Added f q b'
  | .error e => Refusal (b.held? q.group q.name) f q e

theorem held?_concat_uniform (b : Bindings) (u : ObjectField) :
    { b with uniforms := b.uniforms ++ [u] }.held? group name = (b.held? group name).or
      (if .perObject = group ∧ u.name = name then some (u.feature, .uniform (.numeric u.type))
        else none) := by
  cases group with
  | perObject =>
    simp only [held?, List.find?_append, Option.map_or, List.find?_singleton, beq_iff_eq, true_and]
    split <;> rfl
  | textures => simp [held?]
  | environment => simp [held?]

theorem held?_concat_texture (b : Bindings) (t : Binding) :
    { b with textures := b.textures ++ [t] }.held? group name = (b.held? group name).or
      (if .textures = group ∧ t.name = name then some (t.feature, t.kind) else none) := by
  cases group with
  | textures =>
    simp only [held?, List.find?_append, Option.map_or, List.find?_singleton, beq_iff_eq, true_and]
    split <;> rfl
  | perObject => simp [held?]
  | environment => simp [held?]

theorem held?_widen_textures (b : Bindings) (name : String) (stage : Stage) :
    { b with textures := widen name stage b.textures }.held? = b.held? := by
  funext group name'
  cases group with
  | textures => exact map_find?_widen name name' stage b.textures
  | perObject => rfl
  | environment => rfl

theorem held?_environment (b : Bindings) (bs : List Binding) :
    { b with environment := bs }.held? = b.held? := by
  funext group
  cases group <;> rfl

theorem added_of_not_free (hq : Admissible q) (hbound : ¬ Free q.group q.name)
    (hsame : b'.held? = b.held?) : b.Added f q b' where
  admissible := hq
  agrees hfree := absurd hfree hbound
  held := by
    intro group name hfree
    rw [firstRequired?_singleton, if_neg, Option.or_none, hsame]
    rintro ⟨rfl, rfl⟩
    exact hbound hfree

theorem outcome_checkKind (hq : Admissible q) (hfree : Free q.group q.name)
    (hheld : b.held? q.group q.name = some (owner, kind)) (hsame : b'.held? = b.held?) :
    b.Outcome f q ((checkKind f q owner kind).map fun _ => b') := by
  by_cases heq : kind = q.kind
  · rw [checkKind, if_pos heq]
    refine ⟨hq, ?_, ?_⟩
    · intro _ owner' kind' hheld'
      rw [hheld] at hheld'
      cases hheld'
      exact heq
    · intro group name _
      rw [firstRequired?_singleton, hsame]
      split
      · next hresource =>
        obtain ⟨rfl, rfl⟩ := hresource
        rw [hheld, Option.some_or]
      · rw [Option.or_none]
  · rw [checkKind, if_neg heq]
    exact .otherKind hq hfree hheld heq

theorem outcome_baseField {base type : Numeric} (hg : q.group = .perObject)
    (hkind : q.kind = .uniform (.numeric type))
    (hbase : Uniforms.baseFields.lookup q.name = some base) :
    b.Outcome f q ((checkKind f q baseOwner (.uniform (.numeric base))).map fun _ => b) := by
  have hfield : (q.name, base) ∈ Uniforms.baseFields := by
    obtain ⟨l, r, hfields, -⟩ := List.lookup_eq_some_iff.mp hbase
    rw [hfields]
    simp
  by_cases heq : base = type
  · subst heq
    rw [checkKind, if_pos hkind.symm]
    refine added_of_not_free (admissible_of_perObject hg hkind ?_) ?_ rfl
    · intro other hother
      have hlookup := Uniforms.lookup_baseFields _ hother
      rw [hbase, Option.some.injEq] at hlookup
      exact hlookup.symm
    · rw [hg]
      exact fun hfree => hfree base hfield
  · have hne : Kind.uniform (.numeric base) ≠ q.kind := by simpa [hkind] using heq
    rw [checkKind, if_neg hne, hg]
    exact .otherBaseType hg hfield hkind heq

theorem outcome_addUniform (hg : q.group = .perObject) : b.Outcome f q (b.addUniform f q) := by
  unfold addUniform
  split
  · next type hkind =>
    cases hbase : Uniforms.baseFields.lookup q.name with
    | some base => exact outcome_baseField hg hkind hbase
    | none =>
      have hfree : ∀ type, (q.name, type) ∉ Uniforms.baseFields := by
        intro type htype
        simp [Uniforms.lookup_baseFields _ htype] at hbase
      have hq : Admissible q :=
        admissible_of_perObject hg hkind fun base hfield => absurd hfield (hfree base)
      cases hfind : b.uniforms.find? (·.name == q.name) with
      | some u =>
        refine outcome_checkKind hq ?_ ?_ rfl
        · rw [hg]
          exact hfree
        · rw [hg, held?, hfind, Option.map_some]
      | none =>
        refine ⟨hq, ?_, ?_⟩
        · simp [hg, held?, hfind]
        · intro group name _
          rw [held?_concat_uniform, firstRequired?_singleton, hg, hkind]
  · next hkind => exact .notNumeric hg hkind

theorem outcome_addTexture (hg : q.group = .textures) : b.Outcome f q (b.addTexture f q) := by
  unfold addTexture
  split
  · next hstruct =>
    obtain ⟨name, hname⟩ : ∃ name, q.kind = .uniform (.struct name) := by
      unfold isStructUniform at hstruct
      split at hstruct
      · next name hname => exact ⟨name, hname⟩
      · simp at hstruct
    exact .structUniform hg hname
  · next hstruct =>
    have hq : Admissible q := by
      refine ⟨by simp [hg], by simp [hg], fun _ name hname => ?_, by simp [hg]⟩
      simp [isStructUniform, hname] at hstruct
    cases hfind : b.textures.find? (·.name == q.name) with
    | some t =>
      refine outcome_checkKind hq ?_ ?_ (held?_widen_textures b q.name f.stage)
      · rw [hg]
        trivial
      · rw [hg, held?, hfind, Option.map_some]
    | none =>
      refine ⟨hq, ?_, ?_⟩
      · simp [hg, held?, hfind]
      · intro group name _
        rw [held?_concat_texture, firstRequired?_singleton, hg]
        rfl

theorem outcome_addEnvironment (hg : q.group = .environment) :
    b.Outcome f q (b.addEnvironment f q) := by
  unfold addEnvironment
  split
  · next hnone =>
    refine .noSlot hg ?_
    intro s hs hname
    rw [← hname, Slot.find?_name s hs] at hnone
    simp at hnone
  · next s hsome =>
    have hs := Slot.mem_table_of_find? hsome
    have hname := Slot.name_of_find? hsome
    by_cases heq : s.kind = q.kind
    · have hq : Admissible q :=
        ⟨by simp [hg], by simp [hg], by simp [hg], fun _ => ⟨s, hs, hname, heq⟩⟩
      have hbound : ¬ Free q.group q.name := by
        rw [hg]
        exact id
      rw [if_pos heq]
      split
      · exact added_of_not_free hq hbound (held?_environment b _)
      · exact added_of_not_free hq hbound (held?_environment b _)
    · rw [if_neg heq]
      exact .otherSlotKind hg hs hname heq

theorem outcome_add (b : Bindings) (f : Feature) (q : Requirement) :
    b.Outcome f q (b.add f q) := by
  unfold add
  split
  · next hg => exact outcome_addUniform hg
  · next hg => exact outcome_addTexture hg
  · next hg => exact outcome_addEnvironment hg

/-! ## All requirements -/

/-- Bindings made of the requirements `done`. -/
structure Collected (done : List (Feature × Requirement)) (b : Bindings) : Prop where
  compatible : Compatible done
  held : ∀ group name, Free group name → b.held? group name = firstRequired? done group name

namespace Collected

theorem empty : Collected [] {} where
  compatible := ⟨by simp, by simp⟩
  held group name _ := by cases group <;> rfl

theorem concat (h : Collected done b) (hadd : b.Added f q b') :
    Collected (done ++ [(f, q)]) b' where
  compatible := by
    refine h.compatible.concat hadd.admissible ?_
    intro p hp hname hgroup
    by_cases hfree : Free q.group q.name
    · -- The bindings hold the first of `done` for the resource, and all others agree with that one.
      obtain ⟨owner, kind, hfirst⟩ := exists_firstRequired? hp
      obtain ⟨p', hp', hgroup', hname', hkind⟩ := exists_of_firstRequired? hfirst
      rw [hname, hgroup, ← h.held _ _ hfree] at hfirst
      rw [← hadd.agrees hfree owner kind hfirst, ← hkind]
      exact h.compatible.agree p hp p' hp' hname'.symm hgroup'.symm
    · exact kind_eq_of_not_free (h.compatible.admissible p hp) hadd.admissible hname hgroup hfree
  held := by
    intro group name hfree
    rw [hadd.held group name hfree, h.held group name hfree, firstRequired?_append]

end Collected

theorem addAll_spec (rest : List (Feature × Requirement)) (h : Collected done b) :
    match b.addAll rest with
    | .ok b' => Collected (done ++ rest) b'
    | .error e => ∃ before f q after, rest = before ++ (f, q) :: after ∧
        Compatible (done ++ before) ∧
        Refusal (firstRequired? (done ++ before) q.group q.name) f q e := by
  -- Each step moves one requirement from `rest` to the end of `done`.
  induction rest generalizing done b with
  | nil => simpa [addAll] using h
  | cons p rest ih =>
    obtain ⟨f, q⟩ := p
    have hstep := outcome_add b f q
    rw [addAll]
    cases hadd : b.add f q with
    | error e =>
      rw [hadd] at hstep
      refine ⟨[], f, q, rest, rfl, by simpa using h.compatible, ?_⟩
      rw [List.append_nil]
      refine hstep.mono ?_
      intro hfree x hx
      rw [← hx, h.held _ _ hfree]
    | ok b' =>
      rw [hadd] at hstep
      have hrest := ih (h.concat hstep)
      simp only
      cases hall : b'.addAll rest with
      | ok b'' => simpa [hall] using hrest
      | error e =>
        rw [hall] at hrest
        obtain ⟨before, g, q', after, rfl, hcompatible, hrefusal⟩ := hrest
        refine ⟨(f, q) :: before, g, q', after, rfl, ?_, ?_⟩
        · simpa using hcompatible
        · simpa using hrefusal

/-- Collecting ends at the first requirement that is not compatible with those before it. -/
theorem collect_spec (features : List Feature) :
    match collect features with
    | .ok _ => Compatible (requirements features)
    | .error e => ∃ before f q after, requirements features = before ++ (f, q) :: after ∧
        Compatible before ∧ ¬ Compatible (before ++ [(f, q)]) ∧
        Refusal (firstDeclared? features q.group q.name) f q e := by
  have h := addAll_spec (requirements features) Collected.empty
  rw [collect]
  split at h
  · exact h.compatible
  · obtain ⟨before, f, q, after, hsplit, hcompatible, hrefusal⟩ := h
    refine ⟨before, f, q, after, hsplit, hcompatible, hrefusal.not_compatible, ?_⟩
    refine hrefusal.mono ?_
    intro _ x hx
    rw [List.nil_append] at hx
    rw [← firstRequired?_requirements, hsplit, firstRequired?_append, hx, Option.some_or]

theorem collect_ok_iff :
    (∃ b, collect features = .ok b) ↔ Compatible (requirements features) := by
  have h := collect_spec features
  cases hcollect : collect features with
  | ok b =>
    rw [hcollect] at h
    simpa using h
  | error e =>
    rw [hcollect] at h
    obtain ⟨before, f, q, after, hsplit, -, hnot, -⟩ := h
    have hprefix : before ++ [(f, q)] ⊆ requirements features := by
      rw [hsplit]
      simp
    simpa using fun hall : Compatible (requirements features) => hnot (hall.mono hprefix)

theorem requirements_append (features later : List Feature) :
    requirements (features ++ later) = requirements features ++ requirements later :=
  List.flatMap_append

theorem requirements_mono {fewer : List Feature} (h : fewer ⊆ features) :
    requirements fewer ⊆ requirements features := by
  intro p hp
  obtain ⟨f, hf, hfp⟩ := List.mem_flatMap.mp hp
  exact List.mem_flatMap.mpr ⟨f, h hf, hfp⟩

end Bindings

end ShaderWeave
