import FlowDefs.Workspace.Path
set_option autoImplicit false

namespace FlowDefs

inductive Switch where
  | verbose
  | root
  | help
  | version
  | output
  | format
  | json
deriving DecidableEq, Repr

structure OptionForm where
  switch : Switch
  long : String
  short : Option Char
  takesValue : Bool

namespace OptionForm

def verbose : OptionForm := ⟨.verbose, "verbose", some 'v', false⟩

def root : OptionForm := ⟨.root, "root", none, true⟩

def help : OptionForm := ⟨.help, "help", some 'h', false⟩

def version : OptionForm := ⟨.version, "version", some 'V', false⟩

def output : OptionForm := ⟨.output, "output", some 'o', true⟩

def format : OptionForm := ⟨.format, "format", some 'f', true⟩

def json : OptionForm := ⟨.json, "json", none, false⟩

end OptionForm

inductive Item where
  | flag (switch : Switch)
  | value (switch : Switch) (text : String)
  -- The value is the next argument.
  | pending (switch : Switch)
  | operand (text : String)
  | unusable
deriving DecidableEq, Repr

namespace Item

def ofLong (forms : List OptionForm) (body : List Char) : List Item :=
  let name := String.ofList (body.takeWhile (· ≠ '='))
  match forms.find? fun form => form.long = name, body.dropWhile (· ≠ '=') with
  | none, _ => [.unusable]
  | some form, [] => [if form.takesValue then .pending form.switch else .flag form.switch]
  | some form, _ :: text =>
    [if form.takesValue then .value form.switch (String.ofList text) else .unusable]

-- Short options can share a hyphen; the first that takes a value takes the remaining text.
def ofShort (forms : List OptionForm) : List Char → List Item
  | [] => []
  | c :: rest =>
    match forms.find? fun form => form.short = some c with
    | none => [.unusable]
    | some form =>
      if form.takesValue then
        match rest with
        | [] => [.pending form.switch]
        | '=' :: text => [.value form.switch (String.ofList text)]
        | text => [.value form.switch (String.ofList text)]
      else .flag form.switch :: ofShort forms rest

-- A lone hyphen is an operand.
def ofArgument (forms : List OptionForm) (argument : String) : List Item :=
  match argument.toList with
  | '-' :: '-' :: body => ofLong forms body
  | ['-'] => [.operand argument]
  | '-' :: body => ofShort forms body
  | _ => [.operand argument]

end Item

def isValueArgument (argument : String) : Bool :=
  match argument.toList with
  | ['-'] => true
  | '-' :: _ => false
  | _ => true

structure Options where
  verbose : Bool
  root : Option Path
  output : Option Path
  format : Option String
  json : Bool
  operands : List String
deriving DecidableEq, Repr

inductive Command where
  | file (input : Path) (output : Option Path) (format : Option String)
  | tree (source : Path) (dest : Path) (format : Option String)
  | libraries (json : Bool)
deriving DecidableEq, Repr

inductive Invocation where
  | run (root : Option Path) (command : Command)
  | version
  | help
  | misuse
deriving DecidableEq, Repr

abbrev Reading (α : Type) := Except Invocation α

namespace Options

def initial : Options := ⟨false, none, none, none, false, []⟩

def readPath (text : String) : Reading Path :=
  if text = "" then .error .misuse else .ok (.ofText text)

def addFlag (o : Options) : Switch → Reading Options
  | .help => .error .help
  | .version => .error .version
  | .verbose => if o.verbose then .error .misuse else .ok { o with verbose := true }
  | .json => if o.json then .error .misuse else .ok { o with json := true }
  | _ => .error .misuse

def addValue (o : Options) (switch : Switch) (text : String) : Reading Options :=
  match switch with
  | .root =>
    if o.root.isSome then .error .misuse
    else (readPath text).map fun p => { o with root := some p }
  | .output =>
    if o.output.isSome then .error .misuse
    else (readPath text).map fun p => { o with output := some p }
  | .format => if o.format.isSome then .error .misuse else .ok { o with format := some text }
  | _ => .error .misuse

def addOperand (o : Options) (text : String) : Reading Options :=
  if text = "" then .error .misuse else .ok { o with operands := o.operands ++ [text] }

end Options

-- How far the arguments have been read: a switch may wait for its value.
structure Progress where
  options : Options
  waiting : Option Switch

namespace Progress

def start : Progress := ⟨.initial, none⟩

def item (limit : Nat) (p : Progress) : Item → Reading Progress
  | .flag switch => (p.options.addFlag switch).map fun o => ⟨o, none⟩
  | .value switch text => (p.options.addValue switch text).map fun o => ⟨o, none⟩
  | .pending switch => .ok ⟨p.options, some switch⟩
  | .operand text =>
    if p.options.operands.length < limit then (p.options.addOperand text).map fun o => ⟨o, none⟩
    else .error .misuse
  | .unusable => .error .misuse

def readAll (forms : List OptionForm) (limit : Nat) (p : Progress) :
    List String → Reading Options
  | [] => if p.waiting.isSome then .error .misuse else .ok p.options
  | argument :: rest =>
    match p.waiting with
    | some switch =>
      if isValueArgument argument then
        match p.options.addValue switch argument with
        | .ok o => readAll forms limit ⟨o, none⟩ rest
        | .error e => .error e
      else .error .misuse
    | none =>
      if argument = "--" then
        (rest.map Item.operand).foldlM (fun p i => item limit p i) p |>.map Progress.options
      else
        match (Item.ofArgument forms argument).foldlM (fun p i => item limit p i) p with
        | .ok p => readAll forms limit p rest
        | .error e => .error e

end Progress

namespace Command

def readFile (arguments : List String) : Reading (Options × Command) := do
  let forms : List OptionForm := [.output, .format, .verbose, .root, .help]
  let o ← Progress.start.readAll forms 1 arguments
  match o.operands with
  | [input] => .ok (o, .file (.ofText input) o.output o.format)
  | _ => .error .misuse

def readTree (arguments : List String) : Reading (Options × Command) := do
  let forms : List OptionForm := [.format, .verbose, .root, .help]
  let o ← Progress.start.readAll forms 2 arguments
  match o.operands with
  | [source, dest] => .ok (o, .tree (.ofText source) (.ofText dest) o.format)
  | _ => .error .misuse

def readLibraries (arguments : List String) : Reading (Options × Command) := do
  let forms : List OptionForm := [.json, .verbose, .root, .help]
  let o ← Progress.start.readAll forms 0 arguments
  .ok (o, .libraries o.json)

def names : List String := ["file", "tree", "rewrites", "help"]

def read (name : String) (arguments : List String) : Reading (Options × Command) :=
  match name with
  | "file" => readFile arguments
  | "tree" => readTree arguments
  | "rewrites" => readLibraries arguments
  | "help" => .error (if arguments.all names.contains then .help else .misuse)
  | _ => .error .misuse

end Command

namespace Invocation

-- The options before the command; a root after it wins over one before it.
def readGlobal (p : Progress) : List String → Reading (Option Path × Command)
  | [] => .error .misuse
  | argument :: rest =>
    match p.waiting with
    | some switch =>
      if isValueArgument argument then
        match p.options.addValue switch argument with
        | .ok o => readGlobal ⟨o, none⟩ rest
        | .error e => .error e
      else .error .misuse
    | none =>
      match Item.ofArgument [.verbose, .root, .help, .version] argument with
      | [.operand name] => do
        let (options, command) ← Command.read name rest
        .ok (options.root <|> p.options.root, command)
      | items =>
        match items.foldlM (fun p i => Progress.item 0 p i) p with
        | .ok p => readGlobal p rest
        | .error e => .error e

def ofArguments (arguments : List String) : Invocation :=
  match readGlobal .start arguments with
  | .ok (root, command) => .run root command
  | .error other => other

end Invocation

end FlowDefs
