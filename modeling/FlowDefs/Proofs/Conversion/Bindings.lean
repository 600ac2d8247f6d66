import FlowDefs.Library.Builtin
import FlowDefs.Proofs.Conversion.Imports
import FlowDefs.Proofs.Conversion.Substitutes
import FlowDefs.Proofs.TypeScript.Clauses
set_option autoImplicit false

namespace FlowDefs

open Text

-- What the local name stands for, in an import from the module.
def ImportSpecifier.referent (module : String) : ImportSpecifier → Binding
  | .default _ => ⟨module, none⟩
  | .wholeModule _ => ⟨module, none⟩
  | .named imported _ _ => ⟨module, some imported⟩

def lastNaming (specifiers : List ImportSpecifier) (name : String) : Option ImportSpecifier :=
  specifiers.reverse.find? fun s => s.localName = name

theorem last_naming_iff (specifiers : List ImportSpecifier) (name : String) (s : ImportSpecifier) :
    lastNaming specifiers name = some s ↔ ∃ before after, specifiers = before ++ s :: after ∧
      s.localName = name ∧ ∀ t ∈ after, t.localName ≠ name := by
  rw [lastNaming, List.find?_eq_some_iff_append]
  constructor
  · rintro ⟨same, after, before, split, later⟩
    refine ⟨before.reverse, after.reverse, ?_, of_decide_eq_true same, ?_⟩
    · rw [List.reverse_eq_iff.mp split]
      simp
    · intro t member
      simpa using later t (List.mem_reverse.mp member)
  · rintro ⟨before, after, rfl, same, later⟩
    exact ⟨decide_eq_true same, after.reverse, before.reverse, by simp, by simpa using later⟩

theorem last_naming_none_iff (specifiers : List ImportSpecifier) (name : String) :
    lastNaming specifiers name = none ↔ ∀ s ∈ specifiers, s.localName ≠ name := by
  simp [lastNaming]

namespace Bindings

theorem bind_all_eq (bindings : Bindings) (entries : List (String × Binding)) :
    bindings.bindAll entries = entries.reverse ++ bindings := by
  induction entries generalizing bindings with
  | nil => rfl
  | cons entry entries ih =>
      rw [bindAll, List.foldl_cons]
      exact (ih (bindings.bind entry)).trans (by simp [bind])

theorem lookup_referent (module : String) (specifiers : List ImportSpecifier) (name : String) :
    (specifiers.map fun s => s.binding module).lookup name =
      (specifiers.find? fun s => s.localName = name).map fun s => s.referent module := by
  have entry (s : ImportSpecifier) : s.binding module = (s.localName, s.referent module) := by
    cases s <;> rfl
  induction specifiers with
  | nil => rfl
  | cons s specifiers ih =>
      rw [List.map_cons, entry, List.lookup_cons, List.find?_cons, ih]
      by_cases same : name = s.localName
      · simp [same]
      · have other : (name == s.localName) = false := beq_false_of_ne same
        simp [other, Ne.symm same]

theorem get_bind_specifiers (bindings : Bindings) (module : String)
    (specifiers : List ImportSpecifier) (name : String) :
    (bindings.bindAll (specifiers.map fun s => s.binding module)).get? name =
      ((lastNaming specifiers name).map fun s => s.referent module).or (bindings.get? name) := by
  rw [bind_all_eq, get?, List.lookup_append, ← List.map_reverse, lookup_referent]
  rfl

end Bindings

-- A converted import names what each place of its clause names, in order; afterwards every name
-- stands for what the last specifier with this local name refers to, and nothing else has changed.
theorem import_and_bindings_agree (catalog : Catalog) (session : Session) (s : SourceStatement)
    (d : ImportDeclaration) (plain : s.exported = none)
    (converted : (session.convert catalog s).1 = .importing d) :
    let after := (session.convert catalog s).2
    (∃ clause module, s.body.childOfKind? "import_clause" = some clause ∧
      List.Forall₂ ClausePlace.Names clause.clausePlaces d.specifiers ∧
      s.body.field? "source" = some module ∧ decodeString module.text = some d.source) ∧
    (∀ name, after.bindings.get? name =
      ((lastNaming d.specifiers name).map fun spec => spec.referent d.source).or
        (session.bindings.get? name)) ∧
    after.imports = session.imports ∧ after.diagnostics = session.diagnostics := by
  have value := converted
  rw [Session.convert_value] at value
  have content : s.content = .importing d := (statement_importing _ s d).mp value
  obtain ⟨-, clause, module, found, source, decoded, read, -⟩ :=
    (import_content_iff s.body d).mp content
  have silent : s.toFlow (catalog.resolve session.bindings) = pure (.importing d) := by
    rw [SourceStatement.toFlow, content, plain]
    rfl
  refine ⟨⟨clause, module, found, (clause_read_iff clause _).mp read, source, decoded⟩, ?_, ?_, ?_⟩
  · intro name
    rw [Session.convert_bindings, content]
    exact Bindings.get_bind_specifiers session.bindings d.source d.specifiers name
  · rw [Session.convert_imports, silent]
    rfl
  · rw [Session.convert_diagnostics, silent]
    exact List.append_nil session.diagnostics

-- The clause has to start behind the word `import`.
namespace SampleImport

def token (spelling parent : String) (start : Nat) : Node :=
  ⟨spelling, [], false, ⟨start, start + spelling.length⟩, spelling, parent, []⟩

def name (text : String) (fields : List String) (parent : String) (start : Nat) : Node :=
  ⟨"identifier", fields, true, ⟨start, start + text.length⟩, text, parent, []⟩

def list (text : String) (start : Nat) (entries : List Node) : Node :=
  let stop := start + text.length
  ⟨"named_imports", [], true, ⟨start, stop⟩, text, "import_clause",
    token "\x7b" "named_imports" start ::
      (entries ++ [token "\x7d" "named_imports" (stop - 1)])⟩

def clause (text : String) (parts : List Node) : Node :=
  ⟨"import_clause", [], true, ⟨7, 7 + text.length⟩, text, "import_statement", parts⟩

def statement (clause : Node) (source : String) : Node :=
  let module := clause.span.stop + 6
  let stop := module + source.length
  let text := "import " ++ clause.text ++ " from " ++ source ++ ";"
  ⟨"import_statement", [], true, ⟨0, stop + 1⟩, text, "program",
    [token "import" "import_statement" 0, clause,
      token "from" "import_statement" (clause.span.stop + 1),
      ⟨"string", ["source"], true, ⟨module, stop⟩, source, "import_statement", []⟩,
      token ";" "import_statement" stop]⟩

end SampleImport

-- The import `import R, { A as C, B as C } from 'react';`.
def repeatedImport : Node :=
  let renamed (name : String) (start : Nat) : Node :=
    ⟨"import_specifier", [], true, ⟨start, start + 6⟩, name ++ " as C", "named_imports",
      [SampleImport.name name ["name"] "import_specifier" start,
        SampleImport.token "as" "import_specifier" (start + 2),
        SampleImport.name "C" ["alias"] "import_specifier" (start + 5)]⟩
  let list := SampleImport.list "\x7b A as C, B as C \x7d" 10
    [renamed "A" 12, SampleImport.token "," "named_imports" 18, renamed "B" 20]
  let clause := SampleImport.clause "R, \x7b A as C, B as C \x7d"
    [SampleImport.name "R" [] "import_clause" 7, SampleImport.token "," "import_clause" 8, list]
  SampleImport.statement clause "'react'"

def repeatedDeclaration : ImportDeclaration :=
  ⟨.value, [.default "R", .named "A" "C" none, .named "B" "C" none], "react"⟩

theorem repeated_import_converted :
    (Session.start.convert .builtin repeatedImport.statement).1 =
      .importing repeatedDeclaration := by
  have importing : repeatedImport.statement.body.construct = .importDeclaration := by decide
  have content : repeatedImport.statement.content = .importing repeatedDeclaration :=
    (import_content_iff _ _).mpr ⟨importing, _, _, rfl, rfl, quoted_decoded "react", rfl, rfl⟩
  rw [Session.convert_value]
  exact (statement_importing _ _ _).mpr content

theorem last_repeated_name_bound :
    let converted := Session.start.convert .builtin repeatedImport.statement
    repeatedImport.statement.exported = none ∧ converted.1 = .importing repeatedDeclaration ∧
      converted.2.bindings.get? "C" = some ⟨"react", some "B"⟩ ∧
      converted.2.bindings.get? "R" = some ⟨"react", none⟩ := by
  have converted := repeated_import_converted
  obtain ⟨-, bound, -⟩ := import_and_bindings_agree .builtin .start repeatedImport.statement
    repeatedDeclaration rfl converted
  exact ⟨rfl, converted, bound "C", bound "R"⟩

-- An import with a fault, and the specifiers that are read before it. The header of the import is
-- read first, and each place of the clause after it.
inductive Node.ImportFails (body : Node) : String → List ImportSpecifier → Fault → Prop where
  | noClause (source : String) (missing : body.childOfKind? "import_clause" = none) :
      ImportFails body source [] .noImportClause
  | noModule (source : String) (clause : Node)
      (found : body.childOfKind? "import_clause" = some clause)
      (missing : body.field? "source" = none) : ImportFails body source [] .importWithoutModule
  | malformed (source : String) (clause module : Node)
      (found : body.childOfKind? "import_clause" = some clause)
      (sourced : body.field? "source" = some module)
      (undecodable : decodeString module.text = none) : ImportFails body source [] .malformedModule
  | clause (source : String) (clause module : Node) (before later : List ClausePlace)
      (place : ClausePlace) (read : List ImportSpecifier) (fault : Fault)
      (found : body.childOfKind? "import_clause" = some clause)
      (sourced : body.field? "source" = some module)
      (decoded : decodeString module.text = some source)
      (split : clause.clausePlaces = before ++ place :: later)
      (named : List.Forall₂ ClausePlace.Names before read) (refuses : place.Refuses fault) :
      ImportFails body source read fault

theorem abandoned_of_fails (body : Node) (importing : body.construct = .importDeclaration)
    (source : String) (read : List ImportSpecifier) (fault : Fault)
    (fails : body.ImportFails source read fault) : Content.ofBody body =
      .abandoned fault (read.map fun spec => spec.binding source) [] := by
  rw [Content.ofBody, importing]
  dsimp only
  unfold Content.ofImport
  cases fails with
  | noClause missing => simp only [missing, Content.fail, List.map_nil]
  | noModule clause found missing => simp only [found, missing, Content.fail, List.map_nil]
  | malformed clause module found sourced undecodable =>
      simp only [found, sourced, undecodable, Content.fail, List.map_nil]
  | clause clause module before later place read fault found sourced decoded split named
      refuses =>
      have readable := (clause_refused_iff clause read fault).mpr
        ⟨before, place, later, split, named, refuses⟩
      simp only [found, sourced, decoded, Content.ofClause, readable]

theorem read_or_fails (body : Node) (importing : body.construct = .importDeclaration) :
    (∃ d, Content.ofBody body = .importing d) ∨
      ∃ source read fault, body.ImportFails source read fault := by
  cases found : body.childOfKind? "import_clause" with
  | none => exact .inr ⟨"", [], _, .noClause "" found⟩
  | some clause =>
      cases sourced : body.field? "source" with
      | none => exact .inr ⟨"", [], _, .noModule "" clause found sourced⟩
      | some module =>
          cases decoded : decodeString module.text with
          | none => exact .inr ⟨"", [], _, .malformed "" clause module found sourced decoded⟩
          | some source =>
              rcases readable : untilFault (clause.parts.flatMap Content.specifiers) with
                ⟨read, none | fault⟩
              · exact .inl ⟨⟨importKind body, read, source⟩, (import_content_iff body _).mpr
                  ⟨importing, clause, module, found, sourced, decoded, readable, rfl⟩⟩
              · obtain ⟨before, place, later, split, named, refuses⟩ :=
                  (clause_refused_iff clause read fault).mp readable
                exact .inr ⟨source, read, fault, .clause source clause module before later place
                  read fault found sourced decoded split named refuses⟩

theorem invalid_injective (source : Quote) (left right : String)
    (same : Statement.invalid source left = .invalid source right) : left = right := by
  simpa [Statement.invalid, Statement.placeholder, errorTag] using same

theorem abandoned_value (resolve : Resolver) (s : SourceStatement) (fault : Fault)
    (bound : List (String × Binding)) (read : List (Variable TypeExpr))
    (content : s.content = .abandoned fault bound read) :
    (s.toFlow resolve).value = .invalid s.node.quote ("internal error: " ++ fault.message) := by
  rw [SourceStatement.toFlow, content, Converted.value_bind]
  cases s.exported <;> rfl

theorem import_fails_iff (resolve : Resolver) (s : SourceStatement) (description : String)
    (importing : s.body.construct = .importDeclaration) :
    (s.toFlow resolve).value = .invalid s.node.quote ("internal error: " ++ description) ↔
      ∃ source read fault, s.body.ImportFails source read fault ∧ description = fault.message := by
  constructor
  · intro failed
    rcases read_or_fails s.body importing with ⟨d, content⟩ | ⟨source, read, fault, fails⟩
    · rw [(statement_importing resolve s d).mpr content] at failed
      cases failed
    · have content := abandoned_of_fails s.body importing source read fault fails
      rw [abandoned_value resolve s fault _ _ content] at failed
      have same := invalid_injective _ _ _ failed
      exact ⟨source, read, fault, fails, by simpa using same.symm⟩
  · rintro ⟨source, read, fault, fails, rfl⟩
    exact abandoned_value resolve s fault _ _
      (abandoned_of_fails s.body importing source read fault fails)

theorem resolve_head (catalog : Catalog) (left right : Bindings) (head : String)
    (rest : List String) (same : left.get? head = right.get? head) :
    catalog.resolve left ⟨head :: rest⟩ = catalog.resolve right ⟨head :: rest⟩ := by
  simp only [Catalog.resolve, same]

-- An import with a fault leaves bound what the places before the fault name. The bindings are those
-- from before exactly when each of these names was bound to the same before, and references that
-- start with another name are resolved as before.
theorem failed_import_binds_read (catalog : Catalog) (session : Session) (s : SourceStatement)
    (importing : s.body.construct = .importDeclaration) :
    let before := session.bindings
    let after := (session.convert catalog s).2.bindings
    (∀ description, (session.convert catalog s).1 =
        .invalid s.node.quote ("internal error: " ++ description) ↔
      ∃ source read fault, s.body.ImportFails source read fault ∧ description = fault.message) ∧
    ∀ source read fault, s.body.ImportFails source read fault →
      (∀ name, after.get? name =
        ((lastNaming read name).map fun spec => spec.referent source).or (before.get? name)) ∧
      ((∀ name, after.get? name = before.get? name) ↔ ∀ name spec,
        lastNaming read name = some spec → before.get? name = some (spec.referent source)) ∧
      ∀ head rest, (∀ spec ∈ read, spec.localName ≠ head) →
        catalog.resolve after ⟨head :: rest⟩ = catalog.resolve before ⟨head :: rest⟩ := by
  intro before after
  rw [Session.convert_value]
  refine ⟨fun description => import_fails_iff _ s description importing, ?_⟩
  intro source read fault fails
  have content : s.content = .abandoned fault (read.map fun spec => spec.binding source) [] :=
    abandoned_of_fails s.body importing source read fault fails
  have bound (name : String) : after.get? name =
      ((lastNaming read name).map fun spec => spec.referent source).or (before.get? name) := by
    have written : after = before.bindAll (read.map fun spec => spec.binding source) :=
      (Session.convert_bindings catalog session s).trans (congrArg _ (congrArg Content.bindings content))
    rw [written]
    exact Bindings.get_bind_specifiers before source read name
  refine ⟨bound, ?_, ?_⟩
  · constructor
    · intro kept name spec last
      rw [← kept name, bound name, last]
      rfl
    · intro present name
      rw [bound name]
      cases last : lastNaming read name with
      | none => rfl
      | some spec => exact (present name spec last).symm
  · intro head rest free
    apply resolve_head
    rw [bound head, (last_naming_none_iff read head).mpr free]
    rfl

-- The import `import React, { a, , b } from 'not-react';`.
def faultyImport : Node :=
  let entry (name : String) (start : Nat) : Node :=
    ⟨"import_specifier", [], true, ⟨start, start + 1⟩, name, "named_imports",
      [SampleImport.name name ["name"] "import_specifier" start]⟩
  let comma (parent : String) (start : Nat) : Node := SampleImport.token "," parent start
  let error : Node := ⟨"ERROR", [], true, ⟨17, 18⟩, ",", "named_imports", [comma "ERROR" 17]⟩
  let list := SampleImport.list "\x7b a, , b \x7d" 14
    [entry "a" 16, error, comma "named_imports" 19, entry "b" 21]
  let clause := SampleImport.clause "React, \x7b a, , b \x7d"
    [SampleImport.name "React" [] "import_clause" 7, comma "import_clause" 12, list]
  SampleImport.statement clause "'not-react'"

def readBeforeFault : List ImportSpecifier := [.default "React", .named "a" "a" none]

theorem faulty_import_fails : faultyImport.statement.body.ImportFails "not-react" readBeforeFault
    .namelessImport := by
  obtain ⟨clause, found, before, place, later, split, named, refuses⟩ :
      ∃ clause, faultyImport.statement.body.childOfKind? "import_clause" = some clause ∧
        ∃ before place after, clause.clausePlaces = before ++ place :: after ∧
          List.Forall₂ ClausePlace.Names before readBeforeFault ∧ place.Refuses .namelessImport :=
    ⟨_, rfl, (clause_refused_iff _ _ _).mp rfl⟩
  exact .clause "not-react" clause _ before later place _ _ found rfl (quoted_decoded "not-react")
    split named refuses

theorem names_before_fault_bound :
    let s := faultyImport.statement
    let converted := Session.start.convert .builtin s
    s.body.construct = .importDeclaration ∧
      s.body.ImportFails "not-react" readBeforeFault .namelessImport ∧
      converted.1 = .invalid s.node.quote ("internal error: " ++ "import specifier without name") ∧
      converted.2.bindings.get? "React" = some ⟨"not-react", none⟩ ∧
      converted.2.bindings.get? "a" = some ⟨"not-react", some "a"⟩ ∧
      converted.2.bindings.get? "b" = none := by
  have importing : faultyImport.statement.body.construct = .importDeclaration := by decide
  obtain ⟨failed, read⟩ :=
    failed_import_binds_read .builtin .start faultyImport.statement importing
  obtain ⟨bound, -, -⟩ := read _ _ _ faulty_import_fails
  exact ⟨importing, faulty_import_fails,
    (failed "import specifier without name").mpr ⟨_, _, _, faulty_import_fails, rfl⟩,
    bound "React", bound "a", bound "b"⟩

-- The name stays bound to a module whose import is not in the output, and the global namespace of
-- this name is out of reach for the rest of the file.
theorem failed_import_hides_namespace :
    ∃ (catalog : Catalog) (session : Session) (s : SourceStatement),
      s.body.construct = .importDeclaration ∧
      (session.convert catalog s).1 =
        .invalid s.node.quote ("internal error: " ++ "import specifier without name") ∧
      (session.convert catalog s).2.bindings.get? "React" = some ⟨"not-react", none⟩ ∧
      session.bindings.get? "React" = none ∧
      catalog.resolve (session.convert catalog s).2.bindings ⟨["React", "Ref"]⟩ = none ∧
      catalog.resolve session.bindings ⟨["React", "Ref"]⟩ =
        some (.substitute ⟨"Ref", "$tsflower_subst$React$Ref", "tsflower/subst/react"⟩) := by
  have importing : faultyImport.statement.body.construct = .importDeclaration := by decide
  have content : faultyImport.statement.content = .abandoned .namelessImport
      [("React", ⟨"not-react", none⟩), ("a", ⟨"not-react", some "a"⟩)] [] :=
    abandoned_of_fails _ importing _ _ _ faulty_import_fails
  have bound : (Session.start.convert .builtin faultyImport.statement).2.bindings =
      [("a", ⟨"not-react", some "a"⟩), ("React", ⟨"not-react", none⟩)] := by
    rw [Session.convert_bindings, content]
    rfl
  have shown : (Session.start.convert .builtin faultyImport.statement).1 =
      .invalid faultyImport.statement.node.quote ("internal error: " ++ Fault.namelessImport.message) :=
    (Session.convert_value .builtin .start faultyImport.statement).trans
      (abandoned_value _ _ _ _ _ content)
  refine ⟨.builtin, .start, faultyImport.statement, importing, shown, ?_, rfl, ?_, ?_⟩
  · rw [bound]
    rfl
  · rw [bound]
    decide +kernel
  · decide +kernel

end FlowDefs
