import FlowDefs.Workspace.Path
set_option autoImplicit false

namespace FlowDefs

-- The names that lead from the top to a file or a directory.
abbrev Place := List String

-- Where a path starts for a process that works at home.
def Path.start (home : Place) (p : Path) : Place := if p.isAbsolute then [] else home

inductive StoreError where
  | notFound
  | alreadyExists
  | notDirectory
  | isDirectory
deriving DecidableEq, Repr

def StoreError.message : StoreError → String
  | .notFound => "No such file or directory (os error 2)"
  | .alreadyExists => "File exists (os error 17)"
  | .notDirectory => "Not a directory (os error 20)"
  | .isDirectory => "Is a directory (os error 21)"

structure Store where
  files : List (Place × String)
  directories : List Place
  -- The working directory.
  home : Place

namespace Store

def text? (store : Store) (place : Place) : Option String := store.files.lookup place

def isFile (store : Store) (place : Place) : Bool := (store.text? place).isSome

def isDirectory (store : Store) (place : Place) : Bool :=
  place.isEmpty || store.directories.contains place

def ancestors (place : Place) : List Place :=
  (List.range place.length).map fun n => place.take n

def ofFiles (home : Place) (files : List (Place × String)) : Store :=
  ⟨files, (home :: ancestors home ++ files.flatMap fun (place, _) => ancestors place).eraseDups,
    home⟩

-- One piece of a path further. Only a directory can be left or entered, and above the top is the
-- top again.
def enter (store : Store) (place : Place) (segment : String) : Except StoreError Place :=
  if store.isFile place then .error .notDirectory
  else if !store.isDirectory place then .error .notFound
  else if segment = "" ∨ segment = "." then .ok place
  else if segment = ".." then .ok place.dropLast
  else .ok (place ++ [segment])

-- The place that a path names; nothing needs to be there.
def resolve (store : Store) (p : Path) : Except StoreError Place :=
  if p.segments = [""] then .error .notFound
  else p.segments.foldlM store.enter (p.start store.home)

def read (store : Store) (p : Path) : Except StoreError String := do
  let place ← store.resolve p
  match store.text? place with
  | some text => .ok text
  | none => if store.isDirectory place then .error .isDirectory else .error .notFound

def put (store : Store) (place : Place) (text : String) : Store :=
  { store with files := (place, text) :: store.files.filter fun file => file.1 ≠ place }

-- A path with a slash at its end can only name a directory.
def write (store : Store) (p : Path) (text : String) : Except StoreError Store := do
  if p.segments.getLast? = some "" then
    let _ ← store.resolve ⟨p.withoutSlashes⟩
    .error .isDirectory
  else
    let place ← store.resolve p
    if store.isDirectory place then .error .isDirectory else .ok (store.put place text)

def createAlong (store : Store) (place : Place) : List String → Except StoreError Store
  | [] => .ok store
  | segment :: rest =>
    match store.enter place segment with
    | .error e => .error e
    | .ok next =>
      if store.isFile next then .error (if rest.isEmpty then .alreadyExists else .notDirectory)
      else if store.isDirectory next then createAlong store next rest
      else createAlong { store with directories := next :: store.directories } next rest

def createAll (store : Store) (p : Path) : Except StoreError Store :=
  if p.segments = [""] then .ok store else store.createAlong (p.start store.home) p.segments

def placeBefore : Place → Place → Bool
  | [], _ => true
  | _ :: _, [] => false
  | a :: p, b :: q => a < b || (a = b && placeBefore p q)

-- The places of the files below a place, relative to it and in order of their names. A file is
-- below itself.
def filesBelow (store : Store) (place : Place) : List Place :=
  let inside := store.files.filterMap fun (file, _) =>
    if place.isPrefixOf file then some (file.drop place.length) else none
  inside.mergeSort placeBefore

end Store

end FlowDefs
