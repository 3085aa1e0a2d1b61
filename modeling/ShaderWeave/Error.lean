import ShaderWeave.Binding.Group
import ShaderWeave.Binding.Kind
import ShaderWeave.Text.Quoted

/-!
# What can go wrong in a composition

Every failure is a mistake in a declaration, in a request or in a template. It is found while
composing, before anything is asked of a device.
-/

namespace ShaderWeave

/-- A mistake in a template, with its line counted from one. -/
inductive TemplateError
  | syntaxError (line : Nat)
  | undefinedName (line : Nat)
  /-- An expression that can be read but has no value. -/
  | unsupported (line : Nat)
  deriving DecidableEq

inductive ShaderError
  /-- A requested id, or a dependency of the feature `requiredBy`, is not registered. -/
  | unknownFeature (id : String) (requiredBy : Option String)
  | invalidFeatureId (id : String)
  /-- A path of dependencies that ends where it starts. -/
  | dependencyCycle (chain : List String)
  /-- Two declarations of one resource have different kinds. -/
  | resourceTypeConflict (feature existingFeature name : String) (group : Group)
      (existing incoming : Kind)
  | unknownEnvironmentResource (feature name : String)
  | environmentTypeMismatch (feature name : String) (expected found : Kind)
  | invalidPerObjectResource (feature name : String)
  | invalidTextureResource (feature name : String)
  | template (error : TemplateError)
  deriving DecidableEq

def TemplateError.message : TemplateError → String
  | syntaxError line => s!"syntax error (in variant:{line})"
  | undefinedName line => s!"undefined value (in variant:{line})"
  | unsupported line => s!"invalid operation (in variant:{line})"

namespace ShaderError

open Text

def message : ShaderError → String
  | unknownFeature id none => s!"Unknown feature '{id}'"
  | unknownFeature id (some f) => s!"Unknown feature '{id}' (required by '{f}')"
  | invalidFeatureId id =>
    s!"Invalid feature id '{id}': ids must be non-empty and must not contain '+'"
  | dependencyCycle chain => "Feature dependency cycle: " ++ " -> ".intercalate chain
  | resourceTypeConflict feature existingFeature name group existing incoming =>
    s!"Resource type conflict: feature '{feature}' declares {group.name} resource '{name}' as " ++
      s!"{incoming.describe}, but feature '{existingFeature}' already declared it as " ++
      s!"{existing.describe}. Rename one of the resources to resolve the conflict."
  | unknownEnvironmentResource feature name =>
    s!"Unknown environment resource '{name}' declared by feature '{feature}'"
  | environmentTypeMismatch feature name expected found =>
    s!"Environment resource '{name}' declared by feature '{feature}' as {found.describe}, " ++
      s!"but the environment table defines it as {expected.describe}"
  | invalidPerObjectResource feature name =>
    s!"Per-object resource '{name}' declared by feature '{feature}' must be a uniform value"
  | invalidTextureResource feature name =>
    s!"Texture-group resource '{name}' declared by feature '{feature}' cannot be a struct uniform"
  | template error => "Shader template error: " ++ error.message

/-- The error as a record; a template error has no such text. -/
def debug? : ShaderError → Option String
  | unknownFeature id requiredBy =>
    some (record "UnknownFeature" [("id", quoted id), ("required_by", quotedOption requiredBy)])
  | invalidFeatureId id => some (record "InvalidFeatureId" [("id", quoted id)])
  | dependencyCycle chain => some (record "DependencyCycle" [("chain", quotedList chain)])
  | resourceTypeConflict feature existingFeature name group existing incoming =>
    some (record "ResourceTypeConflict" [("feature", quoted feature),
      ("existing_feature", quoted existingFeature), ("name", quoted name), ("group", group.debug),
      ("existing", quoted existing.describe), ("incoming", quoted incoming.describe)])
  | unknownEnvironmentResource feature name =>
    some (record "UnknownEnvironmentResource" [("feature", quoted feature), ("name", quoted name)])
  | environmentTypeMismatch feature name expected found =>
    some (record "EnvironmentTypeMismatch" [("feature", quoted feature), ("name", quoted name),
      ("expected", quoted expected.describe), ("found", quoted found.describe)])
  | invalidPerObjectResource feature name =>
    some (record "InvalidPerObjectResource" [("feature", quoted feature), ("name", quoted name)])
  | invalidTextureResource feature name =>
    some (record "InvalidTextureResource" [("feature", quoted feature), ("name", quoted name)])
  | template _ => none

/-- Whether another error lies behind this one. -/
def hasSource : ShaderError → Bool
  | template _ => true
  | _ => false

end ShaderError

end ShaderWeave
