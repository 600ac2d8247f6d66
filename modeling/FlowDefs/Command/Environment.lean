import FlowDefs.Config.Settings
import FlowDefs.Conversion.File
import FlowDefs.Flow.Format
import FlowDefs.Workspace.Store
set_option autoImplicit false

namespace FlowDefs

structure Environment where
  store : Store
  input : String
  -- The text of the configuration file for all projects.
  general : Option String
  parse : String → Node

inductive Problem where
  | unknownFormat (name : String)
  | read (path : Path) (error : StoreError)
  | write (path : Path) (error : StoreError)
  | create (path : Path) (error : StoreError)
  | noDeclarations (source : Path)
  | failures (count : Nat)
deriving DecidableEq, Repr

def Problem.message : Problem → String
  | .unknownFormat name =>
    "unknown output format: " ++ name ++ " (available: "
      ++ Text.join ", " (Format.all.map Format.name) ++ ")"
  | .read path error => "failed to read " ++ path.text ++ ": " ++ error.message
  | .write path error => "failed to write " ++ path.text ++ ": " ++ error.message
  | .create path error => "failed to create " ++ path.text ++ ": " ++ error.message
  | .noDeclarations source => "no .d.ts files under " ++ source.text
  | .failures count => Nat.repr count ++ " files failed"

def Problem.report (p : Problem) : String := "error: " ++ p.message

structure Outcome where
  store : Store
  output : String
  messages : List String
  problem : Option Problem

namespace Outcome

def fail (store : Store) (problem : Problem) : Outcome := ⟨store, "", [], some problem⟩

def code (o : Outcome) : Nat := if o.problem.isSome then 1 else 0

def report (o : Outcome) : List String := o.messages ++ (o.problem.map Problem.report).toList

end Outcome

namespace Environment

def projectFile : List String := [".tsflow", "config.toml"]

def readOption (env : Environment) (p : Path) : Option String := (env.store.read p).toOption

def settings (env : Environment) (root : Path) : Settings :=
  .load env.general (env.readOption (root.below projectFile))

end Environment

def Settings.outputFormat (s : Settings) (requested : Option String) : Except Problem Format :=
  let name := requested.getD s.formatName
  match Format.ofName? name with
  | some format => .ok format
  | none => .error (.unknownFormat name)

end FlowDefs
