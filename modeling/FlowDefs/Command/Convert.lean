import FlowDefs.Command.Environment
set_option autoImplicit false

namespace FlowDefs.Command

def isStandardInput (input : Path) : Bool := input.segments = ["-"]

def readInput (env : Environment) (input : Path) : Except Problem (String × String) :=
  if isStandardInput input then .ok ("<stdin>", env.input)
  else
    match env.store.read input with
    | .ok text => .ok (input.text, text)
    | .error e => .error (.read input e)

def convertedMessage (name : String) (output : Path) (placeholders : Nat) : String :=
  "Converted " ++ name ++ " -> " ++ output.text ++ " (" ++ Nat.repr placeholders
    ++ " placeholders)"

def writeOutput (store : Store) (name : String) (converted : ConvertedFile) (format : Format) :
    Option Path → Outcome
  | none => ⟨store, Format.write converted format, [], none⟩
  | some output =>
    match store.write output (Format.write converted format) with
    | .ok store => ⟨store, "", [convertedMessage name output converted.placeholders], none⟩
    | .error e => .fail store (.write output e)

def runFile (env : Environment) (settings : Settings) (input : Path) (output : Option Path)
    (format : Option String) : Outcome :=
  match settings.outputFormat format with
  | .error problem => .fail env.store problem
  | .ok format =>
    match readInput env input with
    | .error problem => .fail env.store problem
    | .ok (name, text) =>
      writeOutput env.store name (convertFile settings.catalog name (env.parse text)) format output

def declarationSuffix : List Char := ['.', 'd', '.', 't', 's']

def isDeclarationName (name : String) : Bool := declarationSuffix.isSuffixOf name.toList

def stem (name : String) : String :=
  if isDeclarationName name then String.ofList (name.toList.take (name.toList.length - 5))
  else name

-- The names that lead from the source to an input; none when the source is the file itself.
abbrev Relative := List String

def outputPath (dest : Path) (relative : Relative) (extension : String) : Path :=
  (dest.below relative).withFileName (stem (relative.getLastD "") ++ "." ++ extension)

structure Job where
  input : Path
  relative : Relative
deriving DecidableEq, Repr

def Job.ofRelative (source : Path) (relative : Relative) : Job :=
  ⟨if relative.isEmpty then source else source.below relative, relative⟩

def Job.isDeclaration (job : Job) : Bool := (job.input.fileName?.map isDeclarationName).getD false

def jobs (store : Store) (source : Path) : List Job :=
  match store.resolve source with
  | .error _ => []
  | .ok place =>
    ((store.filesBelow place).map (Job.ofRelative source)).filter Job.isDeclaration

structure Summary where
  placeholders : Nat
  warnings : Nat
deriving DecidableEq, Repr

def Summary.add (a b : Summary) : Summary :=
  ⟨a.placeholders + b.placeholders, a.warnings + b.warnings⟩

def Summary.total (summaries : List Summary) : Summary := summaries.foldl Summary.add ⟨0, 0⟩

structure Plan where
  dest : Path
  format : Format
  convert : String → String → ConvertedFile

namespace Plan

def save (plan : Plan) (store : Store) (output : Path) (converted : ConvertedFile) :
    Store × Except Problem Summary :=
  match store.createAll output.parent with
  | .error e => (store, .error (.create output.parent e))
  | .ok store =>
    match store.write output (Format.write converted plan.format) with
    | .error e => (store, .error (.write output e))
    | .ok store => (store, .ok ⟨converted.placeholders, converted.diagnostics.length⟩)

def convertOne (plan : Plan) (store : Store) (job : Job) : Store × Except Problem Summary :=
  match store.read job.input with
  | .error e => (store, .error (.read job.input e))
  | .ok text =>
    plan.save store (outputPath plan.dest job.relative plan.format.extension)
      (plan.convert (Text.join "/" job.relative) text)

def convertAll (plan : Plan) (store : Store) :
    List Job → Store × List (Job × Except Problem Summary)
  | [] => (store, [])
  | job :: jobs =>
    let first := plan.convertOne store job
    let rest := plan.convertAll first.1 jobs
    (rest.1, (job, first.2) :: rest.2)

end Plan

def failure? (result : Job × Except Problem Summary) : Option String :=
  match result.2 with
  | .ok _ => none
  | .error problem => some ("error: " ++ result.1.input.text ++ ": " ++ problem.message)

def totalMessage (summaries : List Summary) : String :=
  let total := Summary.total summaries
  "Converted " ++ Nat.repr summaries.length ++ " files (" ++ Nat.repr total.placeholders
    ++ " placeholders, " ++ Nat.repr total.warnings ++ " warnings)\n"

def treeOutcome (store : Store) (results : List (Job × Except Problem Summary)) : Outcome :=
  let failures := results.filterMap failure?
  { store := store
    output := totalMessage (results.filterMap fun r => r.2.toOption)
    messages := failures
    problem := if failures.isEmpty then none else some (.failures failures.length) }

def runTree (env : Environment) (settings : Settings) (source dest : Path)
    (format : Option String) : Outcome :=
  match settings.outputFormat format with
  | .error problem => .fail env.store problem
  | .ok format =>
    let inputs := jobs env.store source
    if inputs.isEmpty then .fail env.store (.noDeclarations source)
    else
      let plan : Plan :=
        ⟨dest, format, fun name text => convertFile settings.catalog name (env.parse text)⟩
      let result := plan.convertAll env.store inputs
      treeOutcome result.1 result.2

end FlowDefs.Command
