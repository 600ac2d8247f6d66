import FlowDefs.Json.Value
import FlowDefs.Syntax.Node
set_option autoImplicit false

namespace FlowDefs

namespace Text

def dropBytes : Nat → List Char → Option (List Char)
  | 0, cs => some cs
  | _ + 1, [] => none
  | bytes + 1, c :: cs =>
    if c.utf8Size ≤ bytes + 1 then dropBytes (bytes + 1 - c.utf8Size) cs else none

def takeBytes : Nat → List Char → Option (List Char)
  | 0, _ => some []
  | _ + 1, [] => none
  | bytes + 1, c :: cs =>
    if c.utf8Size ≤ bytes + 1 then (takeBytes (bytes + 1 - c.utf8Size) cs).map (c :: ·) else none

-- The text from byte `start` up to byte `stop`.
def slice? (text : List Char) (start stop : Nat) : Option String :=
  if start ≤ stop then do
    let rest ← dropBytes start text
    let part ← takeBytes (stop - start) rest
    some (String.ofList part)
  else none

end Text

structure Row where
  kind : String
  fields : List String
  named : Bool
  span : Span
  children : Nat
deriving Repr

namespace Row

-- The field names are joined by commas; no names are the empty text.
def fieldNames (text : String) : List String :=
  if text = "" then [] else (text.splitOn ",")

def ofJson? (value : Json) : Option Row :=
  match value with
  | .array [kind, fields, named, start, stop, children] => do
    some {
      kind := ← kind.string?
      fields := fieldNames (← fields.string?)
      named := (← named.nat?) = 1
      span := ⟨← start.nat?, ← stop.nat?⟩
      children := ← children.nat? }
  | _ => none

def toNode (source : List Char) (row : Row) (children : List Node) : Node where
  kind := row.kind
  fields := row.fields
  named := row.named
  span := row.span
  text := (Text.slice? source row.span.start row.span.stop).getD ""
  parent := ""
  children := children.map fun c => { c with parent := row.kind }

end Row

namespace Node

-- From the last row to the first, a node takes its children off the trees finished so far.
def ofRow (source : List Char) (row : Row) (finished : List Node) : List Node :=
  row.toNode source (finished.take row.children) :: finished.drop row.children

def ofRows? (source : String) (rows : List Row) : Option Node :=
  match rows.foldr (ofRow source.toList) [] with
  | [root] => some root
  | _ => none

def ofJson? (source : String) (value : Json) : Option Node := do
  let items ← value.array?
  let rows ← items.mapM Row.ofJson?
  ofRows? source rows

end Node

end FlowDefs
