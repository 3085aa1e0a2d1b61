import ShaderWeave.Marks.Filling
import ShaderWeave.Shader.Composition

/-!
# An engine for marks

This engine knows blocks, comments, expressions and statements besides the markers. It reads the tree of a
text and fills it from the sections by their names. What holds of every library does not rest on it; it is
there to run one.
-/

namespace ShaderWeave.Marks

open Template

def engine : Engine where
  check text := (parse text).map fun _ => ()
  render text sections :=
    match parse text with
    | .error e => .error e
    | .ok nodes => (fillAll (.ofTexts sections.get?) nodes).map (·.1)

/-- The features of a registry in the base template. -/
def library (r : Registry) : Library := ⟨r, .base engine⟩

end ShaderWeave.Marks
