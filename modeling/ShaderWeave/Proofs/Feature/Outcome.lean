import Mathlib.Data.List.Chain
import Mathlib.Data.List.Nodup
import ShaderWeave.Feature.Catalogue
import ShaderWeave.Proofs.Feature.Resolution

/-!
# The outcome of a resolution

A resolution that succeeds gives the features that its request leads to, in an order that keeps to
the dependencies. It fails if the request leads to an id that is not registered or to a cycle, and
then its error shows one of these.
-/

namespace ShaderWeave.Registry

variable {r : Registry} {request path ids : List String} {requiredBy : Option String}
  {found found' : List Feature} {id a b : String} {f : Feature} {e : ShaderError}

/-! ## What a request leads to -/

/-- Declared dependencies lead from a requested id to `id`. -/
def Needs (r : Registry) (request : List String) (id : String) : Prop :=
  ∃ root ∈ request, r.Reaches root id

theorem needs_of_mem (h : id ∈ request) : r.Needs request id :=
  ⟨id, h, Relation.ReflTransGen.refl⟩

theorem Needs.dependsOn (h : r.Needs request a) (hab : r.DependsOn a b) : r.Needs request b := by
  obtain ⟨root, hroot, hreach⟩ := h
  exact ⟨root, hroot, hreach.tail hab⟩

theorem Needs.mono (h : r.Needs ids id) (hsub : ids ⊆ request) : r.Needs request id := by
  obtain ⟨root, hroot, hreach⟩ := h
  exact ⟨root, hsub hroot, hreach⟩

theorem needs_canonicalIds : r.Needs (canonicalIds ids) id ↔ r.Needs ids id := by
  simp [Needs]

/-! ## Nothing else is found -/

theorem needs_of_visitAll
    (step : ∀ found found', ∀ d ∈ ids, r.visit path requiredBy found d = .ok found' →
      ∀ f ∈ found', f ∈ found ∨ r.Reaches d f.id)
    (h : r.visitAll path requiredBy found ids = .ok found') :
    ∀ f ∈ found', f ∈ found ∨ r.Needs ids f.id := by
  induction ids generalizing found with
  | nil =>
    obtain rfl : found = found' := by simpa using h
    exact fun f hf => .inl hf
  | cons id ids ih =>
    rw [visitAll_cons] at h
    split at h
    · simp at h
    · next mid hmid =>
      intro f hf
      have rest := ih (fun found found' d hd => step found found' d (List.mem_cons_of_mem id hd)) h
      rcases rest f hf with hf | hf
      · rcases step found mid id List.mem_cons_self hmid f hf with hf | hf
        · exact .inl hf
        · exact .inr ⟨id, List.mem_cons_self, hf⟩
      · exact .inr (hf.mono (List.subset_cons_self id ids))

theorem reaches_of_visit (path : List String) (requiredBy : Option String) (found : List Feature)
    (id : String) (found' : List Feature) (h : r.visit path requiredBy found id = .ok found') :
    ∀ f ∈ found', f ∈ found ∨ r.Reaches id f.id := by
  induction path, requiredBy, found, id using visit_induction (r := r) generalizing found' with
  | onPath path requiredBy found id hp => simp [visit_of_mem_path hp] at h
  | known path requiredBy found id hp hf =>
    obtain rfl : found = found' := by simpa [visit_of_found hp hf] using h
    exact fun f hf => .inl hf
  | unregistered path requiredBy found id hp hf hid =>
    simp [visit_of_unregistered hp hf hid] at h
  | registered path requiredBy found id f hp hf hid ih =>
    rw [visit_of_registered hp hf hid] at h
    cases hdeps : r.visitAll (path ++ [id]) (some id) found f.dependencies with
    | error e => simp [hdeps, Except.map] at h
    | ok mid =>
      obtain rfl : mid ++ [f] = found' := by simpa [hdeps, Except.map] using h
      intro g hg
      rcases List.mem_append.mp hg with hg | hg
      · have deps := needs_of_visitAll (fun found found' d _ => ih found d found') hdeps
        rcases deps g hg with hg | ⟨d, hd, hreach⟩
        · exact .inl hg
        · exact .inr (hreach.head ⟨f, hid, hd⟩)
      · rw [List.mem_singleton.mp hg, id_of_get? hid]
        exact .inr Relation.ReflTransGen.refl

theorem mem_iff_needs_of_resolve (h : r.resolve ids = .ok found) :
    id ∈ found.map Feature.id ↔ r.Needs ids id := by
  constructor
  · intro hid
    obtain ⟨f, hf, rfl⟩ := List.mem_map.mp hid
    have hneeds := needs_of_visitAll (fun found found' d _ => reaches_of_visit [] none found d found')
      (resolve_eq_visitAll r ids ▸ h) f hf
    simpa [needs_canonicalIds] using hneeds
  · rintro ⟨root, hroot, hreach⟩
    have v := visited_of_resolve h
    exact v.ordered.reaches (v.visited root (by simpa using hroot)) hreach

/-! ## The order of what is found -/

namespace Ordered

theorem nodup (h : r.Ordered found) : (found.map Feature.id).Nodup := by
  induction h with
  | nil => simp
  | snoc _ _ fresh _ ih =>
    rw [List.map_append, List.map_singleton]
    exact List.nodup_append.mpr ⟨ih, by simp, by simpa using fresh⟩

theorem dependencies_before (h : r.Ordered found) {before after : List Feature}
    (hsplit : found = before ++ f :: after) : ∀ d ∈ f.dependencies, d ∈ before.map Feature.id := by
  induction h generalizing after with
  | nil => simp at hsplit
  | @snoc earlier g _ _ _ hafter ih =>
    -- Either `f` is the last feature, or it stands among those before the last.
    rcases List.eq_nil_or_concat' after with rfl | ⟨after, last, rfl⟩
    · obtain ⟨rfl, rfl⟩ : earlier = before ∧ g = f := by
        simpa using List.append_inj' hsplit rfl
      exact hafter
    · apply ih
      have hsplit' : earlier ++ [g] = (before ++ f :: after) ++ [last] := by simpa using hsplit
      exact (List.append_inj' hsplit' rfl).1

theorem idxOf_lt (h : r.Ordered found) (ha : a ∈ found.map Feature.id) (hab : r.DependsOn a b) :
    (found.map Feature.id).idxOf b < (found.map Feature.id).idxOf a := by
  obtain ⟨f, hf, hb⟩ := hab
  obtain ⟨g, hg, rfl⟩ := List.mem_map.mp ha
  obtain rfl : g = f := by simpa [hf] using (h.get? hg).symm
  obtain ⟨before, after, rfl⟩ := List.append_of_mem hg
  have hbefore := h.dependencies_before rfl b hb
  have hfresh : g.id ∉ before.map Feature.id := by
    have hnodup := h.nodup
    rw [List.map_append, List.nodup_append] at hnodup
    intro hmem
    exact hnodup.2.2 g.id hmem g.id (by simp) rfl
  rw [List.map_append, List.idxOf_append_of_mem hbefore, List.idxOf_append_of_notMem hfresh,
    List.map_cons, List.idxOf_cons_self]
  exact List.idxOf_lt_length_iff.mpr hbefore

/-- Positions go down along dependencies, so they do not lead back to where they start. -/
theorem idxOf_lt_of_transGen (h : r.Ordered found) (ha : a ∈ found.map Feature.id)
    (hab : Relation.TransGen r.DependsOn a b) :
    (found.map Feature.id).idxOf b < (found.map Feature.id).idxOf a := by
  induction hab with
  | single hstep => exact h.idxOf_lt ha hstep
  | tail hpath hstep ih => exact lt_trans (h.idxOf_lt (h.reaches ha hpath.to_reflTransGen) hstep) ih

end Ordered

/-- The features that a request leads to, each once and as registered now, none before a feature that
it depends on. -/
structure TopologicalClosure (r : Registry) (request : List String) (found : List Feature) :
    Prop where
  distinct : (found.map Feature.id).Nodup
  current : ∀ f ∈ found, r.get? f.id = some f
  complete : ∀ id, id ∈ found.map Feature.id ↔ r.Needs request id
  ordered : ∀ before f after, found = before ++ f :: after →
    ∀ d ∈ f.dependencies, d ∈ before.map Feature.id

/-- A resolution has just what its request leads to, each feature once and after its dependencies. -/
theorem resolve_topologicalClosure (r : Registry) (request : List String) (found : List Feature)
    (h : r.resolve request = .ok found) : r.TopologicalClosure request found := by
  have hordered := (visited_of_resolve h).ordered
  refine ⟨hordered.nodup, fun f hf => hordered.get? hf, fun id => mem_iff_needs_of_resolve h, ?_⟩
  exact fun before f after hsplit => hordered.dependencies_before hsplit

theorem resolve_topologicalClosure_of_three :
    ∃ found, Registry.builtin.resolve ["ssr", "probes", "snow", "ssr"] = .ok found ∧
      found.map Feature.id = ["ibl", "probes", "wetness", "snow", "ssr"] ∧
      Registry.builtin.TopologicalClosure ["ssr", "probes", "snow", "ssr"] found := by
  have hids : ((Registry.builtin.resolve ["ssr", "probes", "snow", "ssr"]).map
      (·.map Feature.id)).toOption = some ["ibl", "probes", "wetness", "snow", "ssr"] := by
    decide +kernel
  cases h : Registry.builtin.resolve ["ssr", "probes", "snow", "ssr"] with
  | error e => simp [h, Except.map, Except.toOption] at hids
  | ok found =>
    have hfound : found.map Feature.id = ["ibl", "probes", "wetness", "snow", "ssr"] := by
      simpa [h, Except.map, Except.toOption] using hids
    exact ⟨found, rfl, hfound, resolve_topologicalClosure _ _ found h⟩

/-! ## Cycles -/

/-- Declared dependencies lead from `id` back to it. -/
def OnCycle (r : Registry) (id : String) : Prop := Relation.TransGen r.DependsOn id id

theorem Ordered.not_onCycle (h : r.Ordered found) (hid : id ∈ found.map Feature.id) :
    ¬ r.OnCycle id :=
  fun hcycle => lt_irrefl _ (h.idxOf_lt_of_transGen hid hcycle)

theorem onCycle_of_isChain {inner : List String}
    (h : (id :: (inner ++ [id])).IsChain r.DependsOn) : r.OnCycle id := by
  cases inner with
  | nil => exact .single (by simpa using h)
  | cons a inner =>
    rw [List.cons_append, List.isChain_cons_cons] at h
    have hrest := List.relationReflTransGen_of_exists_isChain_cons _ h.2 rfl
    refine .head' h.1 ?_
    simpa using hrest

/-- The part of a path that a cycle reports. -/
theorem exists_cycle_eq (h : id ∈ path) : ∃ before inner, path = before ++ id :: inner ∧
    cycle path id = id :: (inner ++ [id]) := by
  obtain ⟨before, inner, rfl, hbefore⟩ := List.eq_append_cons_of_mem h
  refine ⟨before, inner, rfl, ?_⟩
  have hdrop : (before ++ id :: inner).dropWhile (· != id) = id :: inner := by
    rw [List.dropWhile_append_of_pos]
    · simp
    · intro x hx
      have hne : x ≠ id := fun hxid => hbefore (hxid ▸ hx)
      simpa using hne
  rw [cycle, hdrop, List.cons_append]

/-! ## What an error shows -/

/-- What an error says is true of the registry, and the request leads there. -/
def Shows (r : Registry) (request : List String) : ShaderError → Prop
  | .unknownFeature id none => r.get? id = none ∧ id ∈ request
  | .unknownFeature id (some f) => r.get? id = none ∧ r.Needs request f ∧ r.DependsOn f id
  | .dependencyCycle chain => ∃ id inner, chain = id :: (inner ++ [id]) ∧ (id :: inner).Nodup ∧
      (∀ x ∈ chain, (∃ f, r.get? x = some f) ∧ r.Needs request x) ∧ chain.IsChain r.DependsOn
  | _ => False

/-- How a search comes to an id: down a path of distinct features, each of which declares the next
one, the last one the id. -/
structure Trail (r : Registry) (request path : List String) (requiredBy : Option String)
    (id : String) : Prop where
  distinct : path.Nodup
  registered : ∀ x ∈ path, ∃ f, r.get? x = some f
  declared : (path ++ [id]).IsChain r.DependsOn
  needed : ∀ x ∈ path ++ [id], r.Needs request x
  requiredBy_eq : requiredBy = path.getLast?
  requested : path = [] → id ∈ request

namespace Trail

theorem start (h : id ∈ request) : r.Trail request [] none id where
  distinct := List.nodup_nil
  registered := by simp
  declared := by simp
  needed := by simpa using needs_of_mem h
  requiredBy_eq := rfl
  requested := fun _ => h

theorem step {d : String} (t : r.Trail request path requiredBy id) (hp : id ∉ path)
    (hid : r.get? id = some f) (hd : d ∈ f.dependencies) :
    r.Trail request (path ++ [id]) (some id) d where
  distinct := by simpa using t.distinct.concat hp
  registered := by
    intro x hx
    rcases List.mem_append.mp hx with hx | hx
    · exact t.registered x hx
    · exact ⟨f, List.mem_singleton.mp hx ▸ hid⟩
  declared := by
    refine t.declared.append (by simp) ?_
    simpa using ⟨f, hid, hd⟩
  needed := by
    intro x hx
    rcases List.mem_append.mp hx with hx | hx
    · exact t.needed x hx
    · rw [List.mem_singleton.mp hx]
      exact (t.needed id (by simp)).dependsOn ⟨f, hid, hd⟩
  requiredBy_eq := by simp
  requested := by simp

theorem shows_unknown (t : r.Trail request path requiredBy id) (hid : r.get? id = none) :
    r.Shows request (.unknownFeature id requiredBy) := by
  rw [t.requiredBy_eq]
  rcases List.eq_nil_or_concat' path with rfl | ⟨earlier, last, rfl⟩
  · exact ⟨hid, t.requested rfl⟩
  · rw [List.getLast?_concat]
    have hlast : r.DependsOn last id := by
      have hdeclared := t.declared
      rw [List.append_assoc] at hdeclared
      simpa using (List.isChain_append.mp hdeclared).2.1
    exact ⟨hid, t.needed last (by simp), hlast⟩

theorem shows_cycle (t : r.Trail request path requiredBy id) (hp : id ∈ path) :
    r.Shows request (.dependencyCycle (cycle path id)) := by
  obtain ⟨before, inner, rfl, hcycle⟩ := exists_cycle_eq hp
  refine ⟨id, inner, hcycle, (List.nodup_append.mp t.distinct).2.1, ?_, ?_⟩
  · rw [hcycle]
    intro x hx
    have hx' : x ∈ id :: inner := by
      rw [List.mem_cons, List.mem_append, List.mem_singleton] at hx
      rw [List.mem_cons]
      tauto
    exact ⟨t.registered x (List.mem_append_right before hx'),
      t.needed x (List.mem_append_left [id] (List.mem_append_right before hx'))⟩
  · rw [hcycle]
    have hdeclared := t.declared
    rw [List.append_assoc] at hdeclared
    exact (List.isChain_append.mp hdeclared).2.1

end Trail

/-! ## Failure -/

theorem exists_visit_of_visitAll_error (h : r.visitAll path requiredBy found ids = .error e) :
    ∃ id ∈ ids, ∃ found', r.visit path requiredBy found' id = .error e := by
  induction ids generalizing found with
  | nil => simp at h
  | cons id ids ih =>
    rw [visitAll_cons] at h
    split at h
    · next e' he =>
      obtain rfl : e' = e := by simpa using h
      exact ⟨id, by simp, found, he⟩
    · obtain ⟨x, hx, found', hfound'⟩ := ih h
      exact ⟨x, by simp [hx], found', hfound'⟩

theorem shows_of_visit (path : List String) (requiredBy : Option String) (found : List Feature)
    (id : String) (t : r.Trail request path requiredBy id)
    (h : r.visit path requiredBy found id = .error e) : r.Shows request e := by
  induction path, requiredBy, found, id using visit_induction (r := r) with
  | onPath path requiredBy found id hp =>
    obtain rfl : .dependencyCycle (cycle path id) = e := by simpa [visit_of_mem_path hp] using h
    exact t.shows_cycle hp
  | known path requiredBy found id hp hf => simp [visit_of_found hp hf] at h
  | unregistered path requiredBy found id hp hf hid =>
    obtain rfl : .unknownFeature id requiredBy = e := by
      simpa [visit_of_unregistered hp hf hid] using h
    exact t.shows_unknown hid
  | registered path requiredBy found id f hp hf hid ih =>
    rw [visit_of_registered hp hf hid] at h
    cases hdeps : r.visitAll (path ++ [id]) (some id) found f.dependencies with
    | ok mid => simp [hdeps, Except.map] at h
    | error e' =>
      obtain rfl : e' = e := by simpa [hdeps, Except.map] using h
      obtain ⟨d, hd, found', hfound'⟩ := exists_visit_of_visitAll_error hdeps
      exact ih found' d (t.step hp hid hd) hfound'

theorem shows_of_resolve (h : r.resolve ids = .error e) : r.Shows ids e := by
  rw [resolve_eq_visitAll] at h
  obtain ⟨id, hid, found, hfound⟩ := exists_visit_of_visitAll_error h
  exact shows_of_visit [] none found id (.start (by simpa using hid)) hfound

/-- No resolution has an order for the id: it is not registered, or it needs itself. -/
def Obstructed (r : Registry) (id : String) : Prop := r.get? id = none ∨ r.OnCycle id

theorem Shows.obstructed (h : r.Shows request e) : ∃ id, r.Needs request id ∧ r.Obstructed id := by
  cases e with
  | unknownFeature id requiredBy =>
    cases requiredBy with
    | none =>
      obtain ⟨hid, hmem⟩ := h
      exact ⟨id, needs_of_mem hmem, .inl hid⟩
    | some f =>
      obtain ⟨hid, hneeds, hdep⟩ := h
      exact ⟨id, hneeds.dependsOn hdep, .inl hid⟩
  | dependencyCycle chain =>
    obtain ⟨id, inner, rfl, -, hall, hdeps⟩ := h
    exact ⟨id, (hall id List.mem_cons_self).2, .inr (onCycle_of_isChain hdeps)⟩
  | _ => exact h.elim

theorem not_obstructed_of_resolve (h : r.resolve ids = .ok found) (hid : r.Needs ids id) :
    ¬ r.Obstructed id := by
  have hordered := (visited_of_resolve h).ordered
  have hmem := (mem_iff_needs_of_resolve h).mpr hid
  rintro (hnone | hcycle)
  · obtain ⟨f, hf, rfl⟩ := List.mem_map.mp hmem
    simp [hordered.get? hf] at hnone
  · exact hordered.not_onCycle hmem hcycle

/-- What fewer ids resolve to is part of what all of them resolve to. -/
theorem resolve_subset {fewer : List String} (h : r.resolve ids = .ok found) (hsub : fewer ⊆ ids) :
    ∃ found', r.resolve fewer = .ok found' ∧ found' ⊆ found := by
  cases hfewer : r.resolve fewer with
  | error e =>
    obtain ⟨id, hneeds, hobstructed⟩ := (shows_of_resolve hfewer).obstructed
    exact absurd hobstructed (not_obstructed_of_resolve h (hneeds.mono hsub))
  | ok found' =>
    refine ⟨found', rfl, ?_⟩
    intro f hf
    have hneeds : r.Needs fewer f.id :=
      (mem_iff_needs_of_resolve hfewer).mp (List.mem_map_of_mem hf)
    have hmem := (mem_iff_needs_of_resolve h).mpr (hneeds.mono hsub)
    obtain ⟨g, hg, hid⟩ := List.mem_map.mp hmem
    -- Both lists have the declaration that is registered now.
    have hfg : some f = some g := by
      rw [← (visited_of_resolve hfewer).ordered.get? hf, ← hid,
        (visited_of_resolve h).ordered.get? hg]
    rw [Option.some.inj hfg]
    exact hg

/-- A resolution fails if and only if its request leads to an id that is not registered or that lies
on a cycle, and its error shows one. -/
theorem resolve_error_iff (r : Registry) (request : List String) :
    ((∃ e, r.resolve request = .error e) ↔
      ∃ id, r.Needs request id ∧ r.Obstructed id) ∧
    ∀ e, r.resolve request = .error e → r.Shows request e := by
  refine ⟨⟨?_, ?_⟩, fun e => shows_of_resolve⟩
  · rintro ⟨e, he⟩
    exact (shows_of_resolve he).obstructed
  · rintro ⟨id, hneeds, hobstructed⟩
    cases h : r.resolve request with
    | error e => exact ⟨e, rfl⟩
    | ok found => exact absurd hobstructed (not_obstructed_of_resolve h hneeds)

end ShaderWeave.Registry
