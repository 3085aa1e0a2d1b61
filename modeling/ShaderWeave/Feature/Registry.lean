import ShaderWeave.Error
import ShaderWeave.Feature.Basic
import ShaderWeave.Feature.Request
import ShaderWeave.Log

/-!
# The registry of features

A registry holds at most one declaration for an id, and only under ids that can stand in a key.
Registering an id again replaces its declaration.
-/

namespace ShaderWeave

structure Registry where
  features : List Feature
  ids_valid : ∀ f ∈ features, IsFeatureId f.id
  ids_nodup : (features.map Feature.id).Nodup

namespace Registry

def empty : Registry := ⟨[], by simp, by simp⟩

def get? (r : Registry) (id : String) : Option Feature := r.features.find? (·.id == id)

def contains (r : Registry) (id : String) : Bool := (r.get? id).isSome

def size (r : Registry) : Nat := r.features.length

def isEmpty (r : Registry) : Bool := r.features.isEmpty

/-- The registered ids, sorted. -/
def ids (r : Registry) : List String := canonicalIds (r.features.map Feature.id)

/-- Removes the declaration of an id, if there is one. -/
def erase (r : Registry) (id : String) : Registry where
  features := r.features.filter (·.id != id)
  ids_valid f h := r.ids_valid f (List.mem_filter.1 h).1
  ids_nodup := r.ids_nodup.sublist ((List.filter_sublist).map _)

/-- Puts a declaration in, in place of the one under its id. -/
def insert (r : Registry) (f : Feature) (h : IsFeatureId f.id) : Registry where
  features := (r.erase f.id).features ++ [f]
  ids_valid g hg := by
    rcases List.mem_append.1 hg with hg | hg
    · exact (r.erase f.id).ids_valid g hg
    · rw [List.mem_singleton.1 hg]; exact h
  ids_nodup := by
    rw [List.map_append, List.nodup_append]
    refine ⟨(r.erase f.id).ids_nodup, by simp, ?_⟩
    intro a ha b hb
    obtain ⟨g, hg, rfl⟩ := List.mem_map.1 ha
    obtain rfl : b = f.id := by simpa using hb
    simpa using (List.mem_filter.1 hg).2

/-- Registers a declaration; the result is the one that it replaces. -/
def register (r : Registry) (f : Feature) :
    Reply Registry (Except ShaderError (Option Feature)) :=
  if h : IsFeatureId f.id then
    { result := .ok (r.get? f.id)
      state := r.insert f h
      log := if r.contains f.id then [.featureOverridden f.id] else [] }
  else { result := .error (.invalidFeatureId f.id), state := r, log := [] }

/-- Takes a declaration out; the result is the one that was there. -/
def unregister (r : Registry) (id : String) : Reply Registry (Option Feature) :=
  { result := r.get? id, state := r.erase id, log := [] }

theorem mem_of_get? {r : Registry} {id : String} {f : Feature} (h : r.get? id = some f) :
    f ∈ r.features := List.mem_of_find?_eq_some h

theorem id_of_get? {r : Registry} {id : String} {f : Feature} (h : r.get? id = some f) :
    f.id = id := by simpa using List.find?_some h

theorem get?_eq_none_iff {r : Registry} {id : String} :
    r.get? id = none ↔ id ∉ r.features.map Feature.id := by
  simp [get?, List.find?_eq_none]

end Registry

end ShaderWeave
