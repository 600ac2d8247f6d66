import FlowDefs.Declaration
set_option autoImplicit false

namespace FlowDefs

-- The pieces between slashes as they are written, so that messages show the words of the user.
structure Path where
  segments : List String
deriving DecidableEq, Repr

namespace Path

def ofText (text : String) : Path := ⟨text.splitOn "/"⟩

def text (p : Path) : String := Text.join "/" p.segments

def isAbsolute (p : Path) : Bool := p.segments.head? = some "" && 1 < p.segments.length

-- Read from the end: an empty piece or a dot says nothing, unless it is the first piece.
def dropSilent : List String → List String
  | [] => []
  | [first] => [first]
  | s :: t :: rest => if s = "" ∨ s = "." then dropSilent (t :: rest) else s :: t :: rest

def significant (p : Path) : List String := (dropSilent p.segments.reverse).reverse

def withoutSlashes (p : Path) : List String :=
  (p.segments.reverse.dropWhile (· = "")).reverse

def fileName? (p : Path) : Option String :=
  p.significant.getLast?.filter fun name => name ≠ "" && name ≠ "." && name ≠ ".."

-- Without its last name; what is left may be nothing at all, or the root.
def parent (p : Path) : Path :=
  match (dropSilent p.significant.dropLast.reverse).reverse with
  | [] => ⟨[""]⟩
  | [""] => ⟨["", ""]⟩
  | segments => ⟨segments⟩

-- The path of names below this one; without names, the path with a slash at its end.
def below (p : Path) (names : List String) : Path :=
  let base := if p.segments.getLast? = some "" then p.segments.dropLast else p.segments
  ⟨base ++ (if names.isEmpty then [""] else names)⟩

def withFileName (p : Path) (name : String) : Path :=
  if p.fileName?.isSome then p.parent.below [name] else p.below [name]

end Path

end FlowDefs
