import ShaderWeave.Feature.Registry

/-!
# Resolution

The features of a request, each once, each after the features it depends on. The search goes
depth first through the declared dependencies; the path from the request to the feature at hand
shows a cycle, and the features found so far show what need not be visited again.

The search ends because the path holds distinct registered ids: each step down leaves fewer ids
of the registry off the path.
-/

namespace ShaderWeave

namespace Registry

/-- The registered ids that are not on a path. -/
def offPath (r : Registry) (path : List String) : List String :=
  (r.features.map Feature.id).filter fun id => !path.contains id

theorem length_offPath_lt {r : Registry} {path : List String} {id : String} {f : Feature}
    (hp : id ∉ path) (hf : r.get? id = some f) :
    (r.offPath (path ++ [id])).length < (r.offPath path).length := by
  have hmem : id ∈ r.features.map Feature.id :=
    id_of_get? hf ▸ List.mem_map_of_mem (mem_of_get? hf)
  have hsplit : r.offPath (path ++ [id]) = (r.offPath path).filter (· != id) := by
    simp only [offPath, List.filter_filter]
    congr 1
    funext x
    by_cases hx : x = id <;> simp [hx]
  rw [hsplit]
  refine List.length_filter_lt_length_iff_exists.2 ⟨id, ?_, by simp⟩
  simp only [offPath, List.mem_filter]
  exact ⟨hmem, by simpa using hp⟩

/-- The part of a path from an id on, closed by that id. -/
def cycle (path : List String) (id : String) : List String :=
  path.dropWhile (· != id) ++ [id]

/-- Adds a feature to those found, after its dependencies. -/
def visit (r : Registry) (path : List String) (requiredBy : Option String)
    (found : List Feature) (id : String) : Except ShaderError (List Feature) :=
  if hp : id ∈ path then .error (.dependencyCycle (cycle path id))
  else if id ∈ found.map Feature.id then .ok found
  else match hf : r.get? id with
    | none => .error (.unknownFeature id requiredBy)
    | some f =>
      have := length_offPath_lt hp hf
      match f.dependencies.foldlM (fun found d => visit r (path ++ [id]) (some id) found d) found with
      | .error e => .error e
      | .ok found => .ok (found ++ [f])
termination_by (r.offPath path).length

/-- The declarations for a request, dependencies first. -/
def resolve (r : Registry) (ids : List String) : Except ShaderError (List Feature) :=
  (canonicalIds ids).foldlM (r.visit [] none) []

end Registry

end ShaderWeave
