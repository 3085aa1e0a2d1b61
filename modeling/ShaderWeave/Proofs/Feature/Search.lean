import Mathlib.Data.List.Perm.Subperm
import Mathlib.Logic.Function.Iterate
import ShaderWeave.Proofs.Feature.Outcome

/-!
# A search step by step

A resolution as a run of single steps, with the features on its path on a stack. The steps need no measure
to be written down, so it is proved here that they come to an end, at what the resolution gives. On the way
the path holds distinct registered ids, each a dependency of the one before it, and none of them is found
yet. So the path is never longer than the registry is large.
-/

namespace ShaderWeave.Registry

/-- The features whose dependencies are visited, the deepest first, each with the ids that wait until it is
found. -/
abbrev Stack := List (Feature × List String)

namespace Stack

/-- The ids from the request down to the deepest feature. -/
def path (stack : Stack) : List String := (stack.map fun frame => frame.1.id).reverse

def requiredBy (stack : Stack) : Option String := stack.head?.map fun frame => frame.1.id

theorem path_cons (f : Feature) (waiting : List String) (stack : Stack) :
    path ((f, waiting) :: stack) = path stack ++ [f.id] := by simp [path]

end Stack

/-- A search on its way. -/
structure Moment where
  stack : Stack
  /-- The ids to visit next: dependencies of the deepest feature, or ids of the request. -/
  pending : List String
  found : List Feature

namespace Moment

def start (ids : List String) : Moment := ⟨[], canonicalIds ids, []⟩

/-- The nested calls when an id is visited: one for each feature on the stack and one for the id. -/
def depth (m : Moment) : Nat := m.stack.length + 1

end Moment

inductive Search
  | running (m : Moment)
  | ended (outcome : Except ShaderError (List Feature))

/-- Visits one id, or goes back up from a feature whose dependencies are all found. -/
def next (r : Registry) (m : Moment) : Search :=
  match m.pending, m.stack with
  | [], [] => .ended (.ok m.found)
  | [], (f, waiting) :: stack => .running ⟨stack, waiting, m.found ++ [f]⟩
  | id :: pending, stack =>
    if id ∈ stack.path then .ended (.error (.dependencyCycle (cycle stack.path id)))
    else if id ∈ m.found.map Feature.id then .running ⟨stack, pending, m.found⟩
    else match r.get? id with
      | none => .ended (.error (.unknownFeature id stack.requiredBy))
      | some f => .running ⟨(f, pending) :: stack, f.dependencies, m.found⟩

def advance (r : Registry) : Search → Search
  | .running m => r.next m
  | .ended outcome => .ended outcome

variable {r : Registry} {request ids pending waiting path : List String} {requiredBy : Option String}
  {stack : Stack} {found : List Feature} {m m' : Moment} {s t u : Search} {id : String} {f : Feature}

/-! ## The end of a search -/

/-- Some number of steps leads from `s` to `t`. -/
def Leads (r : Registry) (s t : Search) : Prop := ∃ n, r.advance^[n] s = t

theorem Leads.trans (h : r.Leads s t) (ht : r.Leads t u) : r.Leads s u := by
  obtain ⟨n, rfl⟩ := h
  obtain ⟨k, rfl⟩ := ht
  exact ⟨k + n, Function.iterate_add_apply _ _ _ _⟩

theorem leads_next (h : r.next m = t) : r.Leads (.running m) t := ⟨1, h⟩

/-- A search after a visit: it has failed, or goes on with the next ids. -/
def resume (stack : Stack) (pending : List String) : Except ShaderError (List Feature) → Search
  | .error e => .ended (.error e)
  | .ok found => .running ⟨stack, pending, found⟩

theorem leads_visitAll
    (step : ∀ found id pending, r.Leads (.running ⟨stack, id :: pending, found⟩)
      (resume stack pending (r.visit path requiredBy found id)))
    (found : List Feature) (ids : List String) :
    r.Leads (.running ⟨stack, ids, found⟩) (resume stack [] (r.visitAll path requiredBy found ids)) := by
  induction ids generalizing found with
  | nil => exact ⟨0, rfl⟩
  | cons id ids ih =>
    refine (step found id ids).trans ?_
    rw [visitAll_cons]
    cases r.visit path requiredBy found id with
    | error e => exact ⟨0, rfl⟩
    | ok mid => exact ih mid

theorem leads_visit (path : List String) (requiredBy : Option String) (found : List Feature) (id : String)
    (stack : Stack) (pending : List String) (hpath : stack.path = path)
    (hrequired : stack.requiredBy = requiredBy) :
    r.Leads (.running ⟨stack, id :: pending, found⟩)
      (resume stack pending (r.visit path requiredBy found id)) := by
  induction path, requiredBy, found, id using visit_induction (r := r) generalizing stack pending with
  | onPath path requiredBy found id hp =>
    subst hpath hrequired
    rw [visit_of_mem_path hp]
    exact leads_next (by simp only [next, if_pos hp, resume])
  | known path requiredBy found id hp hf =>
    subst hpath hrequired
    rw [visit_of_found hp hf]
    exact leads_next (by simp only [next, if_neg hp, if_pos hf, resume])
  | unregistered path requiredBy found id hp hf hid =>
    subst hpath hrequired
    rw [visit_of_unregistered hp hf hid]
    exact leads_next (by simp only [next, if_neg hp, if_neg hf, hid, resume])
  | registered path requiredBy found id f hp hf hid ih =>
    subst hpath hrequired
    obtain rfl : f.id = id := id_of_get? hid
    -- Down to `f`, through its dependencies, and back up.
    have hdown : r.Leads (.running ⟨stack, f.id :: pending, found⟩)
        (.running ⟨(f, pending) :: stack, f.dependencies, found⟩) :=
      leads_next (by simp only [next, if_neg hp, if_neg hf, hid])
    have hdeps := leads_visitAll
      (fun found d waiting => ih found d _ waiting (Stack.path_cons f pending stack) rfl) found f.dependencies
    rw [visit_of_registered hp hf hid]
    refine (hdown.trans hdeps).trans ?_
    cases r.visitAll (stack.path ++ [f.id]) (some f.id) found f.dependencies with
    | error e => exact ⟨0, rfl⟩
    | ok mid => exact leads_next rfl

theorem leads_resolve (r : Registry) (ids : List String) :
    r.Leads (.running (.start ids)) (.ended (r.resolve ids)) := by
  have hall : r.Leads (.running (.start ids)) (resume [] [] (r.resolve ids)) :=
    leads_visitAll (fun found id pending => leads_visit [] none found id [] pending rfl rfl) [] _
  refine hall.trans ?_
  cases r.resolve ids with
  | error e => exact ⟨0, rfl⟩
  | ok found => exact leads_next rfl

/-! ## The path on the way -/

/-- A step that does not end the search. -/
inductive Steps (r : Registry) : Moment → Moment → Prop
  | up (f : Feature) (waiting : List String) (stack : Stack) (found : List Feature) :
      Steps r ⟨(f, waiting) :: stack, [], found⟩ ⟨stack, waiting, found ++ [f]⟩
  | known (stack : Stack) (id : String) (pending : List String) (found : List Feature) :
      Steps r ⟨stack, id :: pending, found⟩ ⟨stack, pending, found⟩
  | down (stack : Stack) (f : Feature) (pending : List String) (found : List Feature)
      (offPath : f.id ∉ stack.path) (new : f.id ∉ found.map Feature.id)
      (registered : r.get? f.id = some f) :
      Steps r ⟨stack, f.id :: pending, found⟩ ⟨(f, pending) :: stack, f.dependencies, found⟩

theorem steps_of_next (h : r.next m = .running m') : r.Steps m m' := by
  obtain ⟨stack, pending, found⟩ := m
  cases pending with
  | nil =>
    cases stack with
    | nil => simp [next] at h
    | cons frame stack =>
      obtain rfl := Search.running.inj h
      exact .up _ _ _ _
  | cons id pending =>
    simp only [next] at h
    split at h
    · simp at h
    · next hp =>
      split at h
      · obtain rfl := Search.running.inj h
        exact .known _ _ _ _
      · next hf =>
        split at h
        · simp at h
        · next f hid =>
          obtain rfl := Search.running.inj h
          obtain rfl : f.id = id := id_of_get? hid
          exact .down _ _ _ _ hp hf hid

/-- A stack as a search comes to have it: each of its features was pending where it was opened, and the ids
that are pending now are dependencies of the deepest one. -/
inductive Stacked (r : Registry) (request : List String) : Stack → List String → Prop
  | request {pending : List String} (requested : pending ⊆ request) : Stacked r request [] pending
  | feature {stack : Stack} {f : Feature} {waiting pending : List String}
      (below : Stacked r request stack (f.id :: waiting)) (offPath : f.id ∉ stack.path)
      (registered : r.get? f.id = some f) (declared : pending ⊆ f.dependencies) :
      Stacked r request ((f, waiting) :: stack) pending

theorem Stacked.tail (h : r.Stacked request stack (id :: pending)) : r.Stacked request stack pending := by
  cases h with
  | request requested => exact .request (List.subset_of_cons_subset requested)
  | feature below offPath registered declared =>
    exact .feature below offPath registered (List.subset_of_cons_subset declared)

theorem Stacked.trail (h : r.Stacked request stack pending) (hid : id ∈ pending) :
    r.Trail request stack.path stack.requiredBy id := by
  induction h generalizing id with
  | request requested => exact .start (requested hid)
  | feature _ offPath registered declared ih =>
    rw [Stack.path_cons]
    exact (ih List.mem_cons_self).step offPath registered (declared hid)

/-- What the steps of a search keep. -/
structure Sound (r : Registry) (request : List String) (m : Moment) : Prop where
  stacked : r.Stacked request m.stack m.pending
  unfound : ∀ id ∈ m.stack.path, id ∉ m.found.map Feature.id

theorem sound_start (r : Registry) (ids : List String) : r.Sound ids (.start ids) where
  stacked := .request fun _ => mem_canonicalIds.mp
  unfound := by simp [Moment.start, Stack.path]

theorem Sound.step (h : r.Sound request m) (hstep : r.Steps m m') : r.Sound request m' := by
  obtain ⟨hstacked, hunfound⟩ := h
  cases hstep with
  | up f waiting stack found =>
    cases hstacked with
    | feature below offPath registered declared =>
      -- The path loses `f`, the only feature that is new among those found.
      rw [Stack.path_cons, List.forall_mem_append] at hunfound
      refine ⟨below.tail, fun id hid => ?_⟩
      rw [List.map_append, List.mem_append, List.map_singleton, List.mem_singleton, not_or]
      exact ⟨hunfound.1 id hid, fun h => offPath (h ▸ hid)⟩
  | known stack id pending found => exact ⟨hstacked.tail, hunfound⟩
  | down stack f pending found offPath new registered =>
    refine ⟨.feature hstacked offPath registered (List.Subset.refl _), ?_⟩
    rw [Stack.path_cons, List.forall_mem_append, List.forall_mem_singleton]
    exact ⟨hunfound, new⟩

theorem sound_of_advance {n : Nat} (h : r.advance^[n] (.running (.start ids)) = .running m) :
    r.Sound ids m := by
  induction n generalizing m with
  | zero =>
    obtain rfl := Search.running.inj h
    exact sound_start r ids
  | succ n ih =>
    rw [Function.iterate_succ_apply'] at h
    cases hs : r.advance^[n] (.running (.start ids)) with
    | ended outcome => simp [hs, advance] at h
    | running mid =>
      rw [hs] at h
      exact (ih hs).step (steps_of_next h)

/-- The stack of a search: its path leads from the request down through distinct features, none of them
found yet, and fits into the registry. -/
structure Descends (r : Registry) (request : List String) (m : Moment) : Prop where
  distinct : m.stack.path.Nodup
  registered : ∀ id ∈ m.stack.path, ∃ f, r.get? id = some f
  declared : m.stack.path.IsChain r.DependsOn
  needed : ∀ id ∈ m.stack.path, r.Needs request id
  unfound : ∀ id ∈ m.stack.path, id ∉ m.found.map Feature.id
  depth_le : m.depth ≤ r.size + 1

theorem length_le_size (hdistinct : path.Nodup) (hregistered : ∀ id ∈ path, ∃ f, r.get? id = some f) :
    path.length ≤ r.size := by
  have hsub : path ⊆ r.features.map Feature.id := by
    intro id hid
    obtain ⟨f, hf⟩ := hregistered id hid
    exact id_of_get? hf ▸ List.mem_map_of_mem (mem_of_get? hf)
  simpa [size] using (hdistinct.subperm hsub).length_le

theorem Sound.descends (h : r.Sound request m) : r.Descends request m := by
  obtain ⟨stack, pending, found⟩ := m
  obtain ⟨hstacked, hunfound⟩ := h
  have hpath : stack.path.Nodup ∧ (∀ id ∈ stack.path, ∃ f, r.get? id = some f) ∧
      stack.path.IsChain r.DependsOn ∧ ∀ id ∈ stack.path, r.Needs request id := by
    cases hstacked with
    | request => simp [Stack.path]
    | feature below offPath registered _ =>
      have t := below.trail List.mem_cons_self
      rw [Stack.path_cons]
      refine ⟨?_, ?_, t.declared, t.needed⟩
      · simpa using t.distinct.concat offPath
      · rw [List.forall_mem_append, List.forall_mem_singleton]
        exact ⟨t.registered, _, registered⟩
  obtain ⟨hdistinct, hregistered, hdeclared, hneeded⟩ := hpath
  refine ⟨hdistinct, hregistered, hdeclared, hneeded, hunfound, ?_⟩
  have hlength := length_le_size hdistinct hregistered
  simpa [Moment.depth, Stack.path] using hlength

/-- A search ends with the outcome of the resolution. Until then its stack is a path of distinct ids, so its
calls are never nested deeper than one more than there are features. -/
theorem search_ends (r : Registry) (ids : List String) :
    (∃ n, ∀ k ≥ n, r.advance^[k] (.running (.start ids)) = .ended (r.resolve ids)) ∧
      ∀ n m, r.advance^[n] (.running (.start ids)) = .running m →
        r.Descends ids m ∧ ∀ id pending, m.pending = id :: pending →
          r.Leads (.running m)
            (resume m.stack pending (r.visit m.stack.path m.stack.requiredBy m.found id)) := by
  refine ⟨?ends, fun n m h => ⟨(sound_of_advance h).descends, ?visits⟩⟩
  case ends =>
    obtain ⟨n, hn⟩ := leads_resolve r ids
    refine ⟨n, fun k hk => ?_⟩
    obtain ⟨more, rfl⟩ := Nat.exists_eq_add_of_le' hk
    rw [Function.iterate_add_apply, hn]
    exact Function.iterate_fixed rfl more
  case visits =>
    intro id pending hpending
    obtain ⟨stack, _, found⟩ := m
    obtain rfl := hpending
    exact leads_visit _ _ found id stack pending rfl rfl

/-- Two features that need each other are both on the stack when the first is asked for again. -/
example :
    let day : Feature := { id := "day", stage := .vertex, dependencies := ["night"] }
    let night : Feature := { id := "night", stage := .vertex, dependencies := ["day"] }
    let r := ((empty.register day).state.register night).state
    r.advance^[2] (.running (.start ["day"])) = .running ⟨[(night, []), (day, [])], ["day"], []⟩ ∧
      r.size = 2 :=
  ⟨rfl, rfl⟩

end ShaderWeave.Registry
