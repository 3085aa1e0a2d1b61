import ShaderWeave.Error
import ShaderWeave.Template.Base

/-!
# Engines

An engine reads texts with marks in them and fills the marks. Which marks it knows besides the markers,
and which texts it refuses, is left to it: a template brings the engine that reads it, and a composition
takes what that answers.
-/

namespace ShaderWeave.Template

structure Engine where
  /-- The first mistake in the marks of a text, if there is one. -/
  check : String → Except TemplateError Unit
  /-- A text with its marks filled. -/
  render : String → Sections → Except TemplateError String

/-- The engine puts every section in the place of its marker in the base template, and leaves the rest of it
as it is. -/
def Engine.FillsBase (engine : Engine) : Prop :=
  ∀ sections : Sections,
    engine.render baseText sections = .ok (Segment.joinFilled sections baseSegments)

end ShaderWeave.Template
