import FlowDefs.Declaration
import FlowDefs.Library.Rule
set_option autoImplicit false

namespace FlowDefs

structure Binding where
  module : String
  -- Default imports and imports of a whole module have no imported name.
  imported : Option String
deriving DecidableEq, Repr

-- Local names with what they refer to; the latest import of a name comes first.
abbrev Bindings := List (String × Binding)

namespace Bindings

def get? (bindings : Bindings) (localName : String) : Option Binding := bindings.lookup localName

def bind (bindings : Bindings) (entry : String × Binding) : Bindings := entry :: bindings

def bindAll (bindings : Bindings) (entries : List (String × Binding)) : Bindings :=
  entries.foldl bind bindings

end Bindings

def ImportSpecifier.binding (source : String) : ImportSpecifier → String × Binding
  | .default localName => (localName, ⟨source, none⟩)
  | .wholeModule localName => (localName, ⟨source, none⟩)
  | .named imported localName _ => (localName, ⟨source, some imported⟩)

structure Library where
  name : String
  -- Imports from these modules, and the global namespaces, refer to the table.
  modules : List String
  namespaces : List String
  table : Table
  globals : Table

structure Catalog where
  libraries : List Library

namespace Catalog

def empty : Catalog := ⟨[]⟩

def add (catalog : Catalog) (library : Library) : Catalog :=
  ⟨catalog.libraries ++ [library]⟩

def library? (catalog : Catalog) (name : String) : Option Library :=
  catalog.libraries.find? fun lib => lib.name = name

def moduleTable? (catalog : Catalog) (module : String) : Option Table :=
  (catalog.libraries.find? fun lib => lib.modules.contains module).map Library.table

def namespaceTable? (catalog : Catalog) (name : String) : Option Table :=
  (catalog.libraries.find? fun lib => lib.namespaces.contains name).map Library.table

def globalRule? (catalog : Catalog) (segments : List String) : Option Rule :=
  catalog.libraries.findSome? fun lib => lib.globals.lookup segments

-- What remains of a name after a module or a namespace has to be one rule of the table.
def memberRule? (table : Table) : List String → Option Rule
  | [name] => table.get? name
  | _ => none

def importedRule? (catalog : Catalog) (binding : Binding) (rest : List String) : Option Rule :=
  match catalog.moduleTable? binding.module with
  | none => none
  | some table =>
    match binding.imported with
    | none => memberRule? table rest
    | some imported => table.lookup (imported :: rest)

def resolve (catalog : Catalog) (bindings : Bindings) (name : QualifiedName) : Option Rule :=
  match name.segments with
  | [] => none
  | head :: rest =>
    match bindings.get? head with
    | some binding => catalog.importedRule? binding rest
    | none =>
      if rest.isEmpty then catalog.globalRule? name.segments
      else
        match catalog.namespaceTable? head with
        | some table => memberRule? table rest
        | none => catalog.globalRule? name.segments

end Catalog

end FlowDefs
