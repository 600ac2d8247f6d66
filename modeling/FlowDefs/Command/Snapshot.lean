import FlowDefs.Command.Environment
import FlowDefs.Command.Arguments
import FlowDefs.Command.Convert
import FlowDefs.Syntax.Outline
set_option autoImplicit false

namespace FlowDefs

namespace Library

def encode (lib : Library) : Json :=
  .object [("name", .string lib.name), ("modules", .strings lib.modules),
    ("namespaces", .strings lib.namespaces), ("rules", .strings lib.table.ruleNames),
    ("globals", .strings lib.globals.ruleNames)]

def heading (lib : Library) : String :=
  lib.name ++ " (modules: " ++ Text.join ", " lib.modules ++ ")"

def lines (lib : Library) : List String :=
  lib.heading
    :: (if lib.namespaces.isEmpty then []
        else ["  global namespaces: " ++ Text.join ", " lib.namespaces])
    ++ lib.table.ruleNames.map (fun rule => "  " ++ rule)
    ++ lib.globals.ruleNames.map (fun rule => "  " ++ rule ++ " (global)")

end Library

namespace Catalog

def listing (catalog : Catalog) : String :=
  if catalog.libraries.isEmpty then "No rewrite libraries enabled\n"
  else File.printLines (catalog.libraries.flatMap Library.lines)

def listingJson (catalog : Catalog) : String :=
  (Json.array (catalog.libraries.map Library.encode)).pretty ++ "\n"

end Catalog

def Command.runLibraries (env : Environment) (settings : Settings) (json : Bool) : Outcome :=
  ⟨env.store, if json then settings.catalog.listingJson else settings.catalog.listing, [], none⟩

def Command.run (env : Environment) (settings : Settings) : Command → Outcome
  | .file input output format => runFile env settings input output format
  | .tree source dest format => runTree env settings source dest format
  | .libraries json => runLibraries env settings json

structure Exit where
  code : Nat
  output : String
  messages : List String
  store : Store

def versionText : String := "tsflow 0.2.0\n"

def Invocation.perform (env : Environment) : Invocation → Exit
  | .version => ⟨0, versionText, [], env.store⟩
  | .help => ⟨0, "", [], env.store⟩
  | .misuse => ⟨2, "", [], env.store⟩
  | .run root command =>
    let outcome := command.run env (env.settings (root.getD ⟨["."]⟩))
    ⟨outcome.code, outcome.output, outcome.report, outcome.store⟩

structure Source where
  text : String
  tree : Option Node

-- A directory with its files, wherever it stands.
structure Snapshot where
  files : List (String × Source)
  input : Source
  general : Option String

namespace Snapshot

def home : Place := ["home"]

def sources (s : Snapshot) : List Source := s.input :: s.files.map Prod.snd

-- The tree of a text. One text has one tree, so the file does not matter.
def tree? (s : Snapshot) (text : String) : Option Node :=
  s.sources.findSome? fun source => if source.text = text then source.tree else none

def store (s : Snapshot) : Store :=
  .ofFiles home (s.files.map fun (path, source) => (home ++ path.splitOn "/", source.text))

-- A text without a tree counts as a program without statements.
def environment (s : Snapshot) : Environment where
  store := s.store
  input := s.input.text
  general := s.general
  parse text := (s.tree? text).getD ⟨"program", [], true, ⟨0, text.utf8ByteSize⟩, text, "", []⟩

def run (s : Snapshot) (arguments : List String) : Exit :=
  (Invocation.ofArguments arguments).perform s.environment

def changes (s : Snapshot) (exit : Exit) : List (String × String) :=
  (exit.store.filesBelow home).filterMap fun relative =>
    let text := exit.store.text? (home ++ relative)
    if text = s.store.text? (home ++ relative) then none
    else text.map fun text => (Text.join "/" relative, text)

end Snapshot

end FlowDefs
