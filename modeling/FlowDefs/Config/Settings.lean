import FlowDefs.Config.TomlReader
import FlowDefs.Library.Builtin
set_option autoImplicit false

namespace FlowDefs

structure Settings where
  -- Nothing set means every library.
  libraries : Option (List String)
  format : Option String
deriving DecidableEq, Repr

namespace Settings

def unset : Settings := ⟨none, none⟩

-- An entry of a section. A section may also list its values without their names; each section
-- has one.
def sectionValue? (key : String) : Option Toml → Option (Option Toml)
  | none => some none
  | some (.table _ entries) => some (entries.lookup key)
  | some (.array items) => some items.head?
  | some _ => none

def readString? : Toml → Option String
  | .string value => some value
  | _ => none

def readStrings? : Toml → Option (List String)
  | .array items => items.mapM readString?
  | _ => none

def readOptional? {α : Type} (read : Toml → Option α) : Option Toml → Option (Option α)
  | none => some none
  | some value => (read value).map some

-- A value of the wrong type makes the whole file unreadable; unknown keys mean nothing.
def ofToml? (document : Toml.Entries) : Option Settings := do
  let libraries ← sectionValue? "libraries" (document.lookup "rewrites")
  let format ← sectionValue? "format" (document.lookup "output")
  some ⟨← readOptional? readStrings? libraries, ← readOptional? readString? format⟩

def ofText? (text : String) : Option Settings := (Toml.ofText? text).bind ofToml?

def merge (general project : Settings) : Settings :=
  ⟨project.libraries <|> general.libraries, project.format <|> general.format⟩

-- The settings of two files. One that is missing or unreadable sets nothing.
def load (general project : Option String) : Settings :=
  let read (text : Option String) : Settings := (text.bind ofText?).getD unset
  (read general).merge (read project)

def formatName (s : Settings) : String := s.format.getD "flow"

def catalog (s : Settings) : Catalog :=
  match s.libraries with
  | none => .builtin
  | some names => (Catalog.select names).1

end Settings

end FlowDefs
