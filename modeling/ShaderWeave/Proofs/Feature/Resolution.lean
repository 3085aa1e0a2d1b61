import Mathlib.Logic.Relation
import ShaderWeave.Feature.Resolution

/-!
# What resolution depends on

A search looks at the declarations of the features it can reach and at no others, so registries that
agree on those resolve alike. What a search finds is closed under dependencies.
-/

namespace ShaderWeave

namespace Registry

/-! ## One step of the search -/

/-- Visits ids one after another. -/
def visitAll (r : Registry) (path : List String) (requiredBy : Option String)
    (found : List Feature) (ids : List String) : Except ShaderError (List Feature) :=
  ids.foldlM (r.visit path requiredBy) found

variable {r r' : Registry} {path : List String} {requiredBy : Option String}
  {found found' : List Feature} {id : String} {ids : List String} {f : Feature}

theorem resolve_eq_visitAll (r : Registry) (ids : List String) :
    r.resolve ids = r.visitAll [] none [] (canonicalIds ids) := rfl

@[simp]
theorem visitAll_nil : r.visitAll path requiredBy found [] = .ok found := rfl

theorem visitAll_cons :
    r.visitAll path requiredBy found (id :: ids) =
      match r.visit path requiredBy found id with
      | .error e => .error e
      | .ok found => r.visitAll path requiredBy found ids := by
  rw [visitAll, List.foldlM_cons]
  cases r.visit path requiredBy found id <;> rfl

theorem visit_of_mem_path (h : id ∈ path) :
    r.visit path requiredBy found id = .error (.dependencyCycle (cycle path id)) := by
  rw [visit, dif_pos h]

theorem visit_of_found (hp : id ∉ path) (h : id ∈ found.map Feature.id) :
    r.visit path requiredBy found id = .ok found := by
  rw [visit, dif_neg hp, if_pos h]

theorem visit_of_unregistered (hp : id ∉ path) (hf : id ∉ found.map Feature.id)
    (h : r.get? id = none) :
    r.visit path requiredBy found id = .error (.unknownFeature id requiredBy) := by
  rw [visit, dif_neg hp, if_neg hf]
  split
  · rfl
  · next heq => simp [h] at heq

theorem visit_of_registered (hp : id ∉ path) (hf : id ∉ found.map Feature.id)
    (h : r.get? id = some f) :
    r.visit path requiredBy found id =
      (r.visitAll (path ++ [id]) (some id) found f.dependencies).map (· ++ [f]) := by
  rw [visit, dif_neg hp, if_neg hf]
  split
  · next heq => simp [h] at heq
  · next g heq =>
    obtain rfl : f = g := by simpa [h] using heq
    simp only [visitAll]
    split <;> simp_all [Except.map]

/-- Induction along the search, with one case for each way a visit can go. -/
theorem visit_induction {motive : List String → Option String → List Feature → String → Prop}
    (onPath : ∀ path requiredBy found id, id ∈ path → motive path requiredBy found id)
    (known : ∀ path requiredBy found id, id ∉ path → id ∈ found.map Feature.id →
      motive path requiredBy found id)
    (unregistered : ∀ path requiredBy found id, id ∉ path → id ∉ found.map Feature.id →
      r.get? id = none → motive path requiredBy found id)
    (registered : ∀ path requiredBy found id f, id ∉ path → id ∉ found.map Feature.id →
      r.get? id = some f → (∀ found d, motive (path ++ [id]) (some id) found d) →
      motive path requiredBy found id)
    (path : List String) (requiredBy : Option String) (found : List Feature) (id : String) :
    motive path requiredBy found id := by
  induction path, requiredBy, found, id using visit.induct r with
  | case1 path requiredBy found id hp => exact onPath path requiredBy found id hp
  | case2 path requiredBy found id hp hf => exact known path requiredBy found id hp hf
  | case3 path requiredBy found id hp hf h => exact unregistered path requiredBy found id hp hf h
  | case4 path requiredBy found id hp hf f h _ _ _ ih =>
    exact registered path requiredBy found id f hp hf h ih
  | case5 path requiredBy found id hp hf f h _ _ _ ih =>
    exact registered path requiredBy found id f hp hf h ih

/-! ## Reachable declarations -/

/-- The feature of id `a` is registered and declares the dependency `b`. -/
def DependsOn (r : Registry) (a b : String) : Prop := ∃ f, r.get? a = some f ∧ b ∈ f.dependencies

/-- Declared dependencies lead from `a` to `b`. -/
def Reaches (r : Registry) : String → String → Prop := Relation.ReflTransGen r.DependsOn

theorem visitAll_congr
    (h : ∀ id ∈ ids, ∀ found, r'.visit path requiredBy found id = r.visit path requiredBy found id)
    (found : List Feature) :
    r'.visitAll path requiredBy found ids = r.visitAll path requiredBy found ids := by
  induction ids generalizing found with
  | nil => rfl
  | cons id ids ih =>
    rw [visitAll_cons, visitAll_cons, h id (by simp)]
    split
    · rfl
    · exact ih (fun x hx => h x (by simp [hx])) _

theorem visit_congr (path : List String) (requiredBy : Option String) (found : List Feature)
    (id : String) (h : ∀ x, r.Reaches id x → r'.get? x = r.get? x) :
    r'.visit path requiredBy found id = r.visit path requiredBy found id := by
  induction path, requiredBy, found, id using visit_induction (r := r) with
  | onPath path requiredBy found id hp => rw [visit_of_mem_path hp, visit_of_mem_path hp]
  | known path requiredBy found id hp hf => rw [visit_of_found hp hf, visit_of_found hp hf]
  | unregistered path requiredBy found id hp hf hid =>
    have hid' : r'.get? id = none := by rw [h id Relation.ReflTransGen.refl, hid]
    rw [visit_of_unregistered hp hf hid, visit_of_unregistered hp hf hid']
  | registered path requiredBy found id f hp hf hid ih =>
    have hid' : r'.get? id = some f := by rw [h id Relation.ReflTransGen.refl, hid]
    rw [visit_of_registered hp hf hid, visit_of_registered hp hf hid']
    congr 1
    apply visitAll_congr
    intro d hd found
    exact ih found d fun x hx => h x (Relation.ReflTransGen.head ⟨f, hid, hd⟩ hx)

/-- Registries that agree on what a request reaches resolve it alike. -/
theorem resolve_congr (h : ∀ id ∈ ids, ∀ x, r.Reaches id x → r'.get? x = r.get? x) :
    r'.resolve ids = r.resolve ids := by
  rw [resolve_eq_visitAll, resolve_eq_visitAll]
  apply visitAll_congr
  intro id hid found
  exact visit_congr [] none found id (h id (by simpa using hid))

/-! ## What is found -/

/-- Lists of declarations as a search builds them: each is the one registered under its id, is the
only one of its id, and comes after all its dependencies. -/
inductive Ordered (r : Registry) : List Feature → Prop
  | nil : Ordered r []
  | snoc {found : List Feature} {f : Feature} (before : Ordered r found)
      (registered : r.get? f.id = some f) (fresh : f.id ∉ found.map Feature.id)
      (after : ∀ d ∈ f.dependencies, d ∈ found.map Feature.id) : Ordered r (found ++ [f])

/-- What a search started with `found` leaves: nothing is lost, nothing on the path is added, and
the ids that were visited are there. -/
structure Visited (r : Registry) (path : List String) (found : List Feature) (ids : List String)
    (found' : List Feature) : Prop where
  ordered : r.Ordered found'
  offPath : ∀ x ∈ path, x ∉ found'.map Feature.id
  extends_found : found <+: found'
  visited : ∀ id ∈ ids, id ∈ found'.map Feature.id

theorem visited_of_visitAll
    (step : ∀ found found' id, r.Ordered found → (∀ x ∈ path, x ∉ found.map Feature.id) →
      r.visit path requiredBy found id = .ok found' → r.Visited path found [id] found')
    (ho : r.Ordered found) (hp : ∀ x ∈ path, x ∉ found.map Feature.id)
    (h : r.visitAll path requiredBy found ids = .ok found') : r.Visited path found ids found' := by
  induction ids generalizing found with
  | nil =>
    obtain rfl : found = found' := by simpa using h
    exact ⟨ho, hp, List.prefix_refl _, by simp⟩
  | cons id ids ih =>
    rw [visitAll_cons] at h
    split at h
    · simp at h
    · next mid hmid =>
      have first := step found mid id ho hp hmid
      have rest := ih first.ordered first.offPath h
      refine ⟨rest.ordered, rest.offPath, first.extends_found.trans rest.extends_found, ?_⟩
      intro x hx
      rcases List.mem_cons.mp hx with rfl | hx
      · exact (rest.extends_found.map Feature.id).subset (first.visited x (by simp))
      · exact rest.visited x hx

theorem visited_of_visit (path : List String) (requiredBy : Option String) (found : List Feature)
    (id : String) (found' : List Feature) (ho : r.Ordered found)
    (hpath : ∀ x ∈ path, x ∉ found.map Feature.id)
    (h : r.visit path requiredBy found id = .ok found') : r.Visited path found [id] found' := by
  induction path, requiredBy, found, id using visit_induction (r := r) generalizing found' with
  | onPath path requiredBy found id hp => simp [visit_of_mem_path hp] at h
  | known path requiredBy found id hp hf =>
    obtain rfl : found = found' := by simpa [visit_of_found hp hf] using h
    exact ⟨ho, hpath, List.prefix_refl _, by simpa using hf⟩
  | unregistered path requiredBy found id hp hf hid =>
    simp [visit_of_unregistered hp hf hid] at h
  | registered path requiredBy found id f hp hf hid ih =>
    rw [visit_of_registered hp hf hid] at h
    cases hdeps : r.visitAll (path ++ [id]) (some id) found f.dependencies with
    | error e => simp [hdeps, Except.map] at h
    | ok mid =>
      obtain rfl : mid ++ [f] = found' := by simpa [hdeps, Except.map] using h
      have hstart : ∀ x ∈ path ++ [id], x ∉ found.map Feature.id := by
        intro x hx
        rcases List.mem_append.mp hx with hx | hx
        · exact hpath x hx
        · rw [List.mem_singleton.mp hx]; exact hf
      have deps := visited_of_visitAll (fun found found' d hf hp => ih found d found' hf hp)
        ho hstart hdeps
      have hfid : f.id = id := id_of_get? hid
      refine ⟨?_, ?_, ?_, ?_⟩
      · refine .snoc deps.ordered (by rw [hfid]; exact hid) ?_ deps.visited
        rw [hfid]
        exact deps.offPath id (by simp)
      · intro x hx
        have hne : x ≠ id := fun h => hp (h ▸ hx)
        simpa [hfid, hne] using deps.offPath x (by simp [hx])
      · exact deps.extends_found.trans (List.prefix_append _ _)
      · simp [hfid]

theorem visited_of_resolve (h : r.resolve ids = .ok found) :
    r.Visited [] [] (canonicalIds ids) found := by
  rw [resolve_eq_visitAll] at h
  exact visited_of_visitAll (fun found found' id => visited_of_visit [] none found id found') .nil
    (by simp) h

namespace Ordered

theorem get? (h : r.Ordered found) (hf : f ∈ found) : r.get? f.id = some f := by
  induction h with
  | nil => simp at hf
  | snoc _ registered _ _ ih =>
    rcases List.mem_append.mp hf with hf | hf
    · exact ih hf
    · rw [List.mem_singleton.mp hf]; exact registered

theorem dependencies (h : r.Ordered found) (hf : f ∈ found) :
    ∀ d ∈ f.dependencies, d ∈ found.map Feature.id := by
  intro d hd
  induction h with
  | nil => simp at hf
  | snoc _ _ _ after ih =>
    rw [List.map_append, List.mem_append]
    rcases List.mem_append.mp hf with hf | hf
    · exact .inl (ih hf)
    · exact .inl (after d (by rwa [← List.mem_singleton.mp hf]))

/-- What is found is closed under dependencies. -/
theorem reaches (h : r.Ordered found) {a b : String} (ha : a ∈ found.map Feature.id)
    (hab : r.Reaches a b) : b ∈ found.map Feature.id := by
  induction hab with
  | refl => exact ha
  | tail _ hstep ih =>
    obtain ⟨f, hf, hd⟩ := hstep
    obtain ⟨g, hg, hgid⟩ := List.mem_map.mp ih
    obtain rfl : g = f := by simpa [hgid, hf] using (h.get? hg).symm
    exact h.dependencies hg _ hd

/-- The registry has all that was found, so the ids give it back. -/
theorem filterMap_ids (h : r.Ordered found) : (found.map Feature.id).filterMap r.get? = found := by
  induction h with
  | nil => rfl
  | snoc _ registered _ _ ih => simp [ih, registered]

/-- Lists of current declarations are told apart by their ids. -/
theorem eq_of_ids_eq (h : r.Ordered found) (h' : r.Ordered found')
    (hids : found.map Feature.id = found'.map Feature.id) : found = found' := by
  rw [← h.filterMap_ids, ← h'.filterMap_ids, hids]

theorem isPrefix_of_ids (h : r.Ordered found) (h' : r.Ordered found')
    (hids : found.map Feature.id <+: found'.map Feature.id) : found <+: found' := by
  rw [← h.filterMap_ids, ← h'.filterMap_ids]
  exact hids.filterMap _

end Ordered

/-- The ids of a request that resolves are registered. -/
theorem get?_of_resolve (h : r.resolve ids = .ok found) (hid : id ∈ ids) :
    ∃ f, r.get? id = some f := by
  have v := visited_of_resolve h
  obtain ⟨f, hf, rfl⟩ := List.mem_map.mp (v.visited id (by simpa using hid))
  exact ⟨f, v.ordered.get? hf⟩

/-- Nothing registered has an id that cannot stand in a key, so no request for one resolves. -/
theorem isFeatureId_of_resolve (h : r.resolve ids = .ok found) (hid : id ∈ ids) :
    IsFeatureId id := by
  obtain ⟨f, hf⟩ := get?_of_resolve h hid
  exact id_of_get? hf ▸ r.ids_valid f (mem_of_get? hf)

/-! ## Registration -/

theorem get?_insert (r : Registry) (f : Feature) (hf : IsFeatureId f.id) (id : String) :
    (r.insert f hf).get? id = if id = f.id then some f else r.get? id := by
  simp only [Registry.get?, insert, erase, List.find?_append]
  split
  · next h =>
    have hnone : (r.features.filter (·.id != f.id)).find? (·.id == id) = none := by
      simp [List.find?_eq_none, h]
    rw [hnone]
    simp [h]
  · next h =>
    have hsame : (r.features.filter (·.id != f.id)).find? (·.id == id) =
        r.features.find? (·.id == id) := by
      rw [List.find?_filter]
      congr 1
      funext g
      by_cases hg : g.id = id <;> simp [hg, h]
    rw [hsame]
    simp [Ne.symm h]

/-- A declaration that a request does not use changes nothing for it. -/
theorem resolve_insert (h : r.resolve ids = .ok found) (hf : IsFeatureId f.id)
    (hnot : f.id ∉ found.map Feature.id) : (r.insert f hf).resolve ids = .ok found := by
  rw [← h]
  apply resolve_congr
  intro id hid x hx
  have v := visited_of_resolve h
  have hmem := v.ordered.reaches (v.visited id (by simpa using hid)) hx
  rw [get?_insert, if_neg]
  rintro rfl
  exact hnot hmem

end Registry

end ShaderWeave
