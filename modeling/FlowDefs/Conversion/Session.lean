import FlowDefs.Flow.Statement
import FlowDefs.Library.Catalog
set_option autoImplicit false

namespace FlowDefs

-- What the conversion of a file has gathered so far.
structure Session where
  bindings : Bindings
  -- The imports that substitutions need, in the order of their first use.
  imports : List Substitution
  diagnostics : List Diagnostic

def Session.start : Session := ⟨[], [], []⟩

def Session.addImport (imports : List Substitution) (s : Substitution) : List Substitution :=
  if imports.contains s then imports else imports ++ [s]

abbrev Conversion := StateM Session

namespace Conversion

def rule? (catalog : Catalog) (name : QualifiedName) : Conversion (Option Rule) := do
  let session ← get
  pure (catalog.resolve session.bindings name)

def bind (entry : String × Binding) : Conversion Unit :=
  modify fun session => { session with bindings := session.bindings.bind entry }

def require (s : Substitution) : Conversion Unit :=
  modify fun session => { session with imports := Session.addImport session.imports s }

def warn (message : String) (span : Span) : Conversion Unit :=
  modify fun session =>
    { session with diagnostics := session.diagnostics ++ [⟨message, some span⟩] }

def bindAll : List (String × Binding) → Conversion Unit
  | [] => pure ()
  | entry :: entries => do
    bind entry
    bindAll entries

end Conversion

end FlowDefs
