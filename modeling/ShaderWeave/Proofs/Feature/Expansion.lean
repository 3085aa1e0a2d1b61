import ShaderWeave.Proofs.Feature.Outcome
import ShaderWeave.Proofs.Feature.Request
import ShaderWeave.Proofs.List.FirstOccurrences

/-!
# The search that remembers nothing

An expansion walks down all ways through the dependencies and writes a feature down as often as it comes
to it. A resolution, which passes over what it has found, is an expansion with each feature kept where it
stands first. So what several ids resolve to is what each of them resolves to, one after the other.
-/

namespace ShaderWeave.Registry

open FirstOccurrences

variable {r : Registry} {path path' ids : List String} {requiredBy : Option String}
  {found more : List Feature} {id : String} {f : Feature}

/-- The features on all ways down from an id, each after its dependencies. -/
def expand (r : Registry) (path : List String) (requiredBy : Option String) (id : String) :
    Except ShaderError (List Feature) :=
  if hp : id ∈ path then .error (.dependencyCycle (cycle path id))
  else match hf : r.get? id with
    | none => .error (.unknownFeature id requiredBy)
    | some f =>
      have := length_offPath_lt hp hf
      match f.dependencies.mapM fun d => expand r (path ++ [id]) (some id) d with
      | .error e => .error e
      | .ok parts => .ok (parts.flatten ++ [f])
termination_by (r.offPath path).length

/-- Expands ids one after the other; the first that fails ends it. -/
def expandAll (r : Registry) (path : List String) (requiredBy : Option String) (ids : List String) :
    Except ShaderError (List Feature) :=
  (ids.mapM (r.expand path requiredBy)).map List.flatten

/-! ## One step of an expansion -/

@[simp]
theorem expandAll_nil : r.expandAll path requiredBy [] = .ok [] := rfl

theorem expandAll_cons :
    r.expandAll path requiredBy (id :: ids) =
      match r.expand path requiredBy id with
      | .error e => .error e
      | .ok part => (r.expandAll path requiredBy ids).map (part ++ ·) := by
  rw [expandAll, expandAll, List.mapM_cons]
  cases r.expand path requiredBy id with
  | error e => rfl
  | ok part => cases ids.mapM (r.expand path requiredBy) <;> rfl

theorem expand_of_mem_path (h : id ∈ path) :
    r.expand path requiredBy id = .error (.dependencyCycle (cycle path id)) := by
  rw [expand, dif_pos h]

theorem expand_of_unregistered (hp : id ∉ path) (h : r.get? id = none) :
    r.expand path requiredBy id = .error (.unknownFeature id requiredBy) := by
  rw [expand, dif_neg hp]
  split
  · rfl
  · next heq => simp [h] at heq

theorem expand_of_registered (hp : id ∉ path) (h : r.get? id = some f) :
    r.expand path requiredBy id =
      (r.expandAll (path ++ [id]) (some id) f.dependencies).map (· ++ [f]) := by
  rw [expand, dif_neg hp]
  split
  · next heq => simp [h] at heq
  · next g heq =>
    obtain rfl : f = g := by simpa [h] using heq
    rw [expandAll]
    dsimp only
    split
    · next e he => simp_all [Except.map]
    · next he => simp_all [Except.map]

/-- Induction along an expansion. -/
theorem expand_induction {motive : List String → Option String → String → Prop}
    (onPath : ∀ path requiredBy id, id ∈ path → motive path requiredBy id)
    (unregistered : ∀ path requiredBy id, id ∉ path → r.get? id = none → motive path requiredBy id)
    (registered : ∀ path requiredBy id f, id ∉ path → r.get? id = some f →
      (∀ d, motive (path ++ [id]) (some id) d) → motive path requiredBy id)
    (path : List String) (requiredBy : Option String) (id : String) : motive path requiredBy id := by
  induction path, requiredBy, id using expand.induct r with
  | case1 path requiredBy id hp => exact onPath path requiredBy id hp
  | case2 path requiredBy id hp h => exact unregistered path requiredBy id hp h
  | case3 path requiredBy id hp f h _ _ _ ih => exact registered path requiredBy id f hp h ih
  | case4 path requiredBy id hp f h _ _ _ ih => exact registered path requiredBy id f hp h ih

/-! ## What has been found already -/

theorem expandAll_of_forall (h : ∀ id ∈ ids, ∃ part, r.expand path requiredBy id = .ok part ∧ part ⊆ found) :
    ∃ more, r.expandAll path requiredBy ids = .ok more ∧ more ⊆ found := by
  induction ids with
  | nil => exact ⟨[], rfl, by simp⟩
  | cons id ids ih =>
    obtain ⟨part, hpart, hfound⟩ := h id (by simp)
    obtain ⟨more, hmore, hfound'⟩ := ih fun x hx => h x (by simp [hx])
    refine ⟨part ++ more, ?_, List.append_subset.mpr ⟨hfound, hfound'⟩⟩
    rw [expandAll_cons, hpart, hmore]
    rfl

/-- An id that was found leads to nothing else and to no failure, if it does not lead back to the path. -/
theorem expand_of_found (h : r.Ordered found) (path : List String) (requiredBy : Option String)
    (id : String) (hid : id ∈ found.map Feature.id) (hpath : ∀ x ∈ path, ¬ r.Reaches id x) :
    ∃ more, r.expand path requiredBy id = .ok more ∧ more ⊆ found := by
  induction path, requiredBy, id using expand_induction (r := r) with
  | onPath path requiredBy id hp => exact absurd .refl (hpath id hp)
  | unregistered path requiredBy id hp hnone =>
    obtain ⟨f, hf, rfl⟩ := List.mem_map.mp hid
    simp [h.get? hf] at hnone
  | registered path requiredBy id f hp hf ih =>
    have hfound : f ∈ found := by
      obtain ⟨g, hg, rfl⟩ := List.mem_map.mp hid
      obtain rfl : g = f := by simpa [hf] using (h.get? hg).symm
      exact hg
    have hdeps : ∀ d ∈ f.dependencies,
        ∃ part, r.expand (path ++ [id]) (some id) d = .ok part ∧ part ⊆ found := by
      intro d hd
      have hstep : r.DependsOn id d := ⟨f, hf, hd⟩
      refine ih d (h.dependencies hfound d hd) ?_
      intro x hx hreach
      rcases List.mem_append.mp hx with hx | hx
      · exact hpath x hx (hreach.head hstep)
      · -- A way back to the id would be a cycle, and what was found has none.
        rw [List.mem_singleton.mp hx] at hreach
        exact h.not_onCycle hid (.head' hstep hreach)
    obtain ⟨more, hmore, hsub⟩ := expandAll_of_forall hdeps
    refine ⟨more ++ [f], ?_, List.append_subset.mpr ⟨hsub, by simpa using hfound⟩⟩
    rw [expand_of_registered hp hf, hmore]
    rfl

/-! ## The search with a record -/

/-- The features found, then the others, each where it stands first. -/
def extend (found more : List Feature) : List Feature := (found ++ more).eraseDups

theorem visitAll_eq_expandAll
    (step : ∀ found id, r.Ordered found → (∀ x ∈ path, x ∉ found.map Feature.id) →
      r.visit path requiredBy found id = (r.expand path requiredBy id).map (extend found))
    (ho : r.Ordered found) (hp : ∀ x ∈ path, x ∉ found.map Feature.id) :
    r.visitAll path requiredBy found ids = (r.expandAll path requiredBy ids).map (extend found) := by
  induction ids generalizing found with
  | nil =>
    have hfound : extend found [] = found := by
      rw [extend, List.append_nil, eraseDups_of_nodup ho.nodup.of_map]
    rw [visitAll_nil, expandAll_nil, Except.map, hfound]
  | cons id ids ih =>
    have hvisit := step found id ho hp
    rw [visitAll_cons, expandAll_cons]
    cases hpart : r.expand path requiredBy id with
    | error e =>
      rw [hvisit, hpart]
      rfl
    | ok part =>
      have hok : r.visit path requiredBy found id = .ok (extend found part) := by rw [hvisit, hpart]; rfl
      have v := visited_of_visit path requiredBy found id (extend found part) ho hp hok
      rw [hok]
      dsimp only
      rw [ih v.ordered v.offPath]
      have hassoc (more : List Feature) :
          extend (extend found part) more = extend found (part ++ more) := by
        rw [extend, extend, eraseDups_append_left, extend, List.append_assoc]
      cases r.expandAll path requiredBy ids with
      | error e => rfl
      | ok more => simp only [Except.map, hassoc]

/-- A visit adds what the expansion has and the record does not. -/
theorem visit_eq_expand (path : List String) (requiredBy : Option String) (found : List Feature)
    (id : String) (ho : r.Ordered found) (hpath : ∀ x ∈ path, x ∉ found.map Feature.id) :
    r.visit path requiredBy found id = (r.expand path requiredBy id).map (extend found) := by
  induction path, requiredBy, found, id using visit_induction (r := r) with
  | onPath path requiredBy found id hp =>
    rw [visit_of_mem_path hp, expand_of_mem_path hp]
    rfl
  | known path requiredBy found id hp hf =>
    have hback : ∀ x ∈ path, ¬ r.Reaches id x := fun x hx hreach => hpath x hx (ho.reaches hf hreach)
    obtain ⟨more, hmore, hsub⟩ := expand_of_found ho path requiredBy id hf hback
    rw [visit_of_found hp hf, hmore, Except.map, extend, eraseDups_append_of_subset hsub,
      eraseDups_of_nodup ho.nodup.of_map]
  | unregistered path requiredBy found id hp hf hid =>
    rw [visit_of_unregistered hp hf hid, expand_of_unregistered hp hid]
    rfl
  | registered path requiredBy found id f hp hf hid ih =>
    have hstart : ∀ x ∈ path ++ [id], x ∉ found.map Feature.id := by
      intro x hx
      rcases List.mem_append.mp hx with hx | hx
      · exact hpath x hx
      · rw [List.mem_singleton.mp hx]; exact hf
    have hdeps : r.visitAll (path ++ [id]) (some id) found f.dependencies =
        (r.expandAll (path ++ [id]) (some id) f.dependencies).map (extend found) :=
      visitAll_eq_expandAll (fun found d ho hp => ih found d ho hp) ho hstart
    rw [visit_of_registered hp hf hid, expand_of_registered hp hid]
    cases hmore : r.expandAll (path ++ [id]) (some id) f.dependencies with
    | error e =>
      rw [hdeps, hmore]
      rfl
    | ok more =>
      have hok : r.visitAll (path ++ [id]) (some id) found f.dependencies = .ok (extend found more) := by
        rw [hdeps, hmore]; rfl
      -- The id is on the path of its dependencies, so its feature is not among what they add.
      have v := visited_of_visitAll (fun found found' d ho hp => visited_of_visit _ _ found d found' ho hp)
        ho hstart hok
      have hnew : f ∉ found ++ more := by
        intro hmem
        have hmem' : f ∈ extend found more := List.mem_eraseDups.mpr hmem
        exact v.offPath id (by simp) (id_of_get? hid ▸ List.mem_map_of_mem hmem')
      rw [hok]
      simp only [Except.map, extend]
      rw [← List.append_assoc, eraseDups_concat, if_neg hnew]

theorem resolve_eq_expandAll (r : Registry) (ids : List String) :
    r.resolve ids = (r.expandAll [] none (canonicalIds ids)).map List.eraseDups :=
  visitAll_eq_expandAll (fun found id ho hp => visit_eq_expand [] none found id ho hp) .nil (by simp)

theorem resolve_singleton (r : Registry) (id : String) :
    r.resolve [id] = (r.expand [] none id).map List.eraseDups := by
  rw [resolve_eq_expandAll, canonicalIds, List.foldr_cons, List.foldr_nil, insertId, expandAll_cons]
  cases r.expand [] none id <;> simp [Except.map]

/-! ## Fewer ids on the path -/

theorem expandAll_of_forall_imp {requiredBy' : Option String}
    (h : ∀ id ∈ ids, ∀ part, r.expand path requiredBy id = .ok part →
      r.expand path' requiredBy' id = .ok part)
    (hmore : r.expandAll path requiredBy ids = .ok more) :
    r.expandAll path' requiredBy' ids = .ok more := by
  induction ids generalizing more with
  | nil => exact hmore
  | cons id ids ih =>
    rw [expandAll_cons] at hmore ⊢
    cases hpart : r.expand path requiredBy id with
    | error e => simp [hpart] at hmore
    | ok part =>
      rw [h id (by simp) part hpart]
      cases hrest : r.expandAll path requiredBy ids with
      | error e => simp [hpart, hrest, Except.map] at hmore
      | ok rest =>
        simp only [hpart, hrest] at hmore
        rw [ih (fun x hx => h x (by simp [hx])) hrest]
        exact hmore

/-- The path shows in failures alone. -/
theorem expand_of_path_subset (path : List String) (requiredBy : Option String) (id : String)
    (path' : List String) (requiredBy' : Option String) (hsub : path' ⊆ path)
    (h : r.expand path requiredBy id = .ok more) : r.expand path' requiredBy' id = .ok more := by
  induction path, requiredBy, id using expand_induction (r := r)
    generalizing path' requiredBy' more with
  | onPath path requiredBy id hp => simp [expand_of_mem_path hp] at h
  | unregistered path requiredBy id hp hid => simp [expand_of_unregistered hp hid] at h
  | registered path requiredBy id f hp hid ih =>
    rw [expand_of_registered hp hid] at h
    rw [expand_of_registered (fun hp' => hp (hsub hp')) hid]
    cases hdeps : r.expandAll (path ++ [id]) (some id) f.dependencies with
    | error e => simp [hdeps, Except.map] at h
    | ok below =>
      have hsub' : path' ++ [id] ⊆ path ++ [id] :=
        List.append_subset.mpr ⟨List.subset_append_of_subset_left _ hsub, by simp⟩
      rw [expandAll_of_forall_imp (fun d _ part hpart => ih d _ _ hsub' hpart) hdeps, ← hdeps]
      exact h

/-! ## One id after the other -/

variable {parts : List (List Feature)}

/-- The ids resolve on their own, each to the part in its place. -/
def ResolveTo (r : Registry) (ids : List String) (parts : List (List Feature)) : Prop :=
  ids.map (fun id => r.resolve [id]) = parts.map .ok

theorem expandAll_of_resolveTo (h : r.ResolveTo ids parts) :
    ∃ more, r.expandAll [] none ids = .ok more ∧ more.eraseDups = parts.flatten.eraseDups := by
  induction ids generalizing parts with
  | nil =>
    obtain rfl : parts = [] := by simpa [ResolveTo] using h.symm
    exact ⟨[], rfl, rfl⟩
  | cons id ids ih =>
    obtain ⟨part, rest, rfl⟩ : ∃ part rest, parts = part :: rest :=
      List.exists_cons_of_ne_nil (by rintro rfl; simp [ResolveTo] at h)
    obtain ⟨hid, hids⟩ : r.resolve [id] = .ok part ∧ r.ResolveTo ids rest := by
      simpa [ResolveTo] using h
    obtain ⟨more, hmore, hrest⟩ := ih hids
    rw [resolve_singleton] at hid
    cases hexpand : r.expand [] none id with
    | error e => simp [hexpand, Except.map] at hid
    | ok own =>
      obtain rfl : own.eraseDups = part := by simpa [hexpand, Except.map] using hid
      refine ⟨own ++ more, by rw [expandAll_cons, hexpand, hmore]; rfl, ?_⟩
      rw [List.flatten_cons, eraseDups_append_left, ← eraseDups_append_right, hrest,
        eraseDups_append_right]

theorem exists_resolveTo (h : r.expandAll [] none ids = .ok more) :
    ∃ parts, r.ResolveTo ids parts := by
  induction ids generalizing more with
  | nil => exact ⟨[], rfl⟩
  | cons id ids ih =>
    rw [expandAll_cons] at h
    cases hexpand : r.expand [] none id with
    | error e => simp [hexpand] at h
    | ok own =>
      cases hrest : r.expandAll [] none ids with
      | error e => simp [hexpand, hrest, Except.map] at h
      | ok rest =>
        obtain ⟨parts, hparts⟩ := ih hrest
        refine ⟨own.eraseDups :: parts, ?_⟩
        rw [ResolveTo, List.map_cons, hparts, resolve_singleton, hexpand]
        rfl

theorem expandAll_of_error {before after : List String} {e : ShaderError}
    (hbefore : ∀ i ∈ before, ∃ found, r.resolve [i] = .ok found) (h : r.resolve [id] = .error e) :
    r.expandAll [] none (before ++ id :: after) = .error e := by
  induction before with
  | nil =>
    rw [resolve_singleton] at h
    cases hexpand : r.expand [] none id with
    | error e' => simpa [hexpand, Except.map, expandAll_cons] using h
    | ok own => simp [hexpand, Except.map] at h
  | cons i before ih =>
    obtain ⟨found, hfound⟩ := hbefore i (by simp)
    rw [resolve_singleton] at hfound
    cases hexpand : r.expand [] none i with
    | error e' => simp [hexpand, Except.map] at hfound
    | ok own =>
      rw [List.cons_append, expandAll_cons, hexpand]
      dsimp only
      rw [ih fun j hj => hbefore j (by simp [hj])]
      rfl

/-- A feature comes after what its dependencies resolve to, one after the other. -/
theorem resolve_of_get? (hid : r.get? id = some f) (h : r.resolve [id] = .ok found) :
    ∃ parts, r.ResolveTo f.dependencies parts ∧ found = parts.flatten.eraseDups ++ [f] := by
  have hvisit : r.resolve [id] = r.visit [] none [] id := by
    rw [resolve_singleton, visit_eq_expand [] none [] id .nil (by simp)]
    rfl
  rw [hvisit, visit_of_registered (by simp) (by simp) hid, visitAll_eq_expandAll
    (fun found d ho hp => visit_eq_expand _ _ found d ho hp) .nil (by simp)] at h
  rw [List.nil_append] at h
  cases hbelow : r.expandAll [id] (some id) f.dependencies with
  | error e => simp [hbelow, Except.map] at h
  | ok below =>
    have hfree : r.expandAll [] none f.dependencies = .ok below :=
      expandAll_of_forall_imp (fun d _ part => expand_of_path_subset _ _ d [] none (by simp)) hbelow
    obtain ⟨parts, hparts⟩ := exists_resolveTo hfree
    obtain ⟨more, hmore, hunion⟩ := expandAll_of_resolveTo hparts
    obtain rfl : below = more := Except.ok.inj (hfree.symm.trans hmore)
    refine ⟨parts, hparts, ?_⟩
    simpa [hbelow, Except.map, extend, hunion] using h.symm

/-- A resolution is the union of the resolutions of its ids, each feature where it stands first. -/
theorem resolve_eq_union (r : Registry) :
    (∀ id f found, r.get? id = some f → r.resolve [id] = .ok found →
      ∃ parts, r.ResolveTo f.dependencies parts ∧ found = parts.flatten.eraseDups ++ [f]) ∧
    ∀ ids,
      (∀ parts, r.ResolveTo (canonicalIds ids) parts →
        r.resolve ids = .ok parts.flatten.eraseDups) ∧
      (∀ before id after e, canonicalIds ids = before ++ id :: after →
        (∀ i ∈ before, ∃ found, r.resolve [i] = .ok found) → r.resolve [id] = .error e →
        r.resolve ids = .error e) ∧
      r.resolve ids = (r.expandAll [] none (canonicalIds ids)).map List.eraseDups := by
  refine ⟨fun id f found => resolve_of_get?, ?_⟩
  intro ids
  refine ⟨?union, ?error, resolve_eq_expandAll r ids⟩
  case union =>
    intro parts hparts
    obtain ⟨more, hmore, hunion⟩ := expandAll_of_resolveTo hparts
    rw [resolve_eq_expandAll, hmore, ← hunion]
    rfl
  case error =>
    intro before id after e hsplit hbefore he
    rw [resolve_eq_expandAll, hsplit, expandAll_of_error hbefore he]
    rfl

end ShaderWeave.Registry
