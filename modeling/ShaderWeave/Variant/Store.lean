import ShaderWeave.Device.Basic
import ShaderWeave.Shader.Composition

/-!
# The store of variants

A variant is a composed shader with its compiled module. The store composes and compiles on the
first request for a key and afterwards returns the very same variant. Variants with equal sources
share a module: the table of modules goes by the digest of the source.

Invalidation only forgets. A variant that somebody still holds stays as it is, and the table keeps
a module for as long as a stored or held variant has it.
-/

namespace ShaderWeave

structure Variant where
  /-- No two variants of a store have the same serial number. -/
  serial : Nat
  shader : Shader
  shaderModule : ShaderModule
  deriving DecidableEq

namespace Variant

def key (v : Variant) : RequestKey := v.shader.key

/-- The ids of the resolved features, dependencies first. -/
def features (v : Variant) : List String := v.shader.features

def debug (v : Variant) : String :=
  Text.openRecord "VariantEntry"
    [("feature_key", "FeatureKey(" ++ Text.quoted v.key.text ++ ")"),
      ("features", Text.quotedList v.features), ("source_hash", v.shader.digest.hex)]

end Variant

structure VariantStore where
  library : Library
  variants : List Variant := []
  /-- The compiled modules by the digests of their sources. -/
  modules : List (Digest × ShaderModule) := []
  /-- Whether each newly composed source is logged. -/
  dumpSource : Bool := false
  nextSerial : Nat := 0

namespace VariantStore

def ofLibrary (lib : Library) : VariantStore := { library := lib }

def find? (s : VariantStore) (key : RequestKey) : Option Variant :=
  s.variants.find? (·.key == key)

/-- The stored variant for a request. -/
def get? (s : VariantStore) (ids : List String) : Option Variant := s.find? (.ofIds ids)

def contains (s : VariantStore) (ids : List String) : Bool := (s.get? ids).isSome

def size (s : VariantStore) : Nat := s.variants.length

def isEmpty (s : VariantStore) : Bool := s.variants.isEmpty

/-- The number of compiled modules in the table. -/
def moduleCount (s : VariantStore) : Nat := s.modules.length

/-! ## Requests -/

/-- The module for a source, compiled if the table has none for its digest. -/
def moduleFor (s : VariantStore) (d : Device) (shader : Shader) :
    Reply (VariantStore × Device) ShaderModule :=
  match s.modules.lookup shader.digest with
  | some m => { result := m, state := (s, d), log := [] }
  | none =>
    let made := d.compileModule ("Variant " ++ shader.key.display) shader.source
    { result := made.1
      state := ({ s with modules := s.modules ++ [(shader.digest, made.1)] }, made.2)
      log := [.moduleCompiled shader.key] }

/-- Stores the variant of a shader. -/
def store (s : VariantStore) (d : Device) (shader : Shader) :
    Reply (VariantStore × Device) Variant :=
  let r := s.moduleFor d shader
  let v : Variant := ⟨s.nextSerial, shader, r.result⟩
  { result := v
    state := ({ r.state.1 with
      variants := r.state.1.variants ++ [v]
      nextSerial := s.nextSerial + 1 }, r.state.2)
    log := (if s.dumpSource then [.sourceDumped shader.key shader.source] else []) ++ r.log }

/-- The variant for a request, composed and compiled on first use. An id that can stand in no key
is refused before anything is looked up, since its key could be that of another request. -/
def getOrCreate (s : VariantStore) (d : Device) (ids : List String) :
    Reply (VariantStore × Device) (Except ShaderError Variant) :=
  match (canonicalIds ids).find? fun id => !decide (IsFeatureId id) with
  | some id => { result := .error (.unknownFeature id none), state := (s, d), log := [] }
  | none =>
    match s.get? ids with
    | some v => { result := .ok v, state := (s, d), log := [.variantHit v.key] }
    | none =>
      let log := s.library.composeLog ids
      match s.library.compose ids with
      | .error e => { result := .error e, state := (s, d), log }
      | .ok shader =>
        let r := s.store d shader
        { result := .ok r.result, state := r.state, log := log ++ r.log }

/-! ## Invalidation -/

/-- Drops the modules of the table that no stored variant and no variant in `held` has. -/
def releaseModules (held : List Variant) (s : VariantStore) : VariantStore :=
  { s with modules := s.modules.filter fun m =>
      (s.variants ++ held).any fun v => v.shaderModule.id == m.2.id }

/-- Forgets one variant; the result is the number of variants forgotten. -/
def invalidate (held : List Variant) (s : VariantStore) (key : RequestKey) :
    Reply VariantStore Nat :=
  let kept := s.variants.filter (·.key != key)
  let removed := s.variants.length - kept.length
  { result := removed
    state := releaseModules held { s with variants := kept }
    log := if removed = 0 then [] else [.variantsInvalidated removed (some key)] }

/-- Forgets all variants and all modules; the result is the number of variants forgotten. -/
def invalidateAll (s : VariantStore) : Reply VariantStore Nat :=
  let removed := s.variants.length
  { result := removed
    state := { s with variants := [], modules := [] }
    log := if removed = 0 then [] else [.variantsInvalidated removed none] }

/-- What registering a feature changes. -/
structure Registration where
  /-- The declaration that was replaced. -/
  previous : Option Feature
  /-- The keys of the variants that had the feature, and so were forgotten. -/
  stale : List RequestKey
  deriving DecidableEq

/-- Registers a feature and forgets every variant that has it. -/
def register (held : List Variant) (s : VariantStore) (f : Feature) :
    Reply VariantStore (Except ShaderError Registration) :=
  let r := s.library.register f
  match r.result with
  | .error e => { result := .error e, state := s, log := r.log }
  | .ok previous =>
    let stale := s.variants.filter (·.features.contains f.id)
    let kept := s.variants.filter fun v => !v.features.contains f.id
    { result := .ok ⟨previous, stale.map Variant.key⟩
      state := releaseModules held { s with library := r.state, variants := kept }
      log := r.log ++ if stale.isEmpty then [] else [.featureChanged f.id stale.length] }

/-- Reads the template anew and forgets all variants. -/
def reload (s : VariantStore) : Reply VariantStore Unit :=
  let r := s.library.reload
  let i := { s with library := r.state }.invalidateAll
  { result := (), state := i.state, log := r.log ++ i.log }

end VariantStore

end ShaderWeave
