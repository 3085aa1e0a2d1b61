import ShaderWeave.Log
import ShaderWeave.Template.Engine

/-!
# Templates

A template is the base template or a text of one's own, with the engine that reads it. A text of one's own
is checked when the template is made of it, so a mistake in its marks shows then and not in a later
composition; a name that is no section shows when the template is filled.
-/

namespace ShaderWeave

open Template

inductive Template
  | base (engine : Engine)
  | custom (engine : Engine) (text : String) (accepted : engine.check text = .ok ())

namespace Template

def ofText (engine : Engine) (text : String) : Except TemplateError Template :=
  match h : engine.check text with
  | .error e => .error e
  | .ok () => .ok (custom engine text h)

def engine : Template → Engine
  | base engine => engine
  | custom engine .. => engine

/-- The text with its marks. -/
def text : Template → String
  | base _ => baseText
  | custom _ text _ => text

/-- The text with every place filled by its section. -/
def fill (t : Template) (sections : Sections) : Except TemplateError String :=
  t.engine.render t.text sections

/-- Reads the base template anew. A text of one's own has no other source to read. -/
def reload (t : Template) : Reply Template Unit :=
  match t with
  | base _ => { result := (), state := t, log := [.templateReload] }
  | custom .. => { result := (), state := t, log := [] }

def debug (t : Template) : String :=
  let source := match t with
    | base _ => "Embedded"
    | custom _ text _ => "Inline(" ++ Text.quoted text ++ ")"
  Text.openRecord "ShaderTemplate" [("source", source)]

end Template

end ShaderWeave
