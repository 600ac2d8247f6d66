import FlowDefs.Conversion.Session
import FlowDefs.Fault
set_option autoImplicit false

namespace FlowDefs

namespace FlowType

-- A reference without arguments is written without brackets.
def named (name : QualifiedName) (arguments : List FlowType) : FlowType :=
  .reference name (if arguments.isEmpty then none else some arguments) []

-- The properties of a component that states none.
def openObject : FlowType := .object [] false true

def component (name : QualifiedName) (arguments : List FlowType) : FlowType :=
  .named name (if arguments.isEmpty then [openObject] else arguments)

-- Flow's element type takes the type of the element, not of its properties.
def element (type : FlowType) : FlowType := .named (.bare "React$Element") [type]

end FlowType

def inOrder {m : Type → Type} [Monad m] {α : Type} : List (m α) → m (List α)
  | [] => pure []
  | first :: rest => do
    let value ← first
    let values ← inOrder rest
    pure (value :: values)

-- Makes a type of a reference in the session of the file: from the name as it is written and the
-- conversions of its arguments, of which it runs those that it uses.
abbrev Translation :=
  QualifiedName → List (Conversion FlowType) → Conversion (Except Fault FlowType)

namespace Translation

def component : Translation := fun name arguments =>
  if 2 < arguments.length then pure (.error (.componentArguments arguments.length))
  else do
    let arguments ← inOrder arguments
    pure (.ok (.component name arguments))

def reactElement : Translation := fun _ arguments =>
  match arguments with
  | [] => pure (.ok (.element (.bare "React$ElementType")))
  | [properties] => do
    let properties ← properties
    pure (.ok (.element (.named (.bare "React$ComponentType") [properties])))
  | [_, type] => do
    let type ← type
    pure (.ok (.element type))
  | arguments => pure (.error (.elementArguments arguments.length))

end Translation

def Expansion.run : Expansion → Translation
  | component => Translation.component
  | reactElement => Translation.reactElement

end FlowDefs
