import FlowDefs.Proofs.Conversion.Bindings
import FlowDefs.Proofs.Flow.ImportGrammar
set_option autoImplicit false

namespace FlowDefs

open Text ImportGrammar

theorem names_nothing_iff (clause : Node) (specifiers : List ImportSpecifier)
    (named : List.Forall₂ ClausePlace.Names clause.clausePlaces specifiers) :
    clause.clausePlaces = [] ↔ specifiers = [] := by
  rw [← List.length_eq_zero_iff, named.length_eq, List.length_eq_zero_iff]

theorem type_import_iff (body : Node) : importKind body = .type ↔ body.hasToken "type" = true := by
  rw [importKind]
  split <;> simp_all

-- The text is an import with or without a clause, as the clause of the source names something or
-- not. It always ends with a literal that stands for the module, and the lines of the literal are
-- those of the name.
theorem import_grammatical_unless (catalog : Catalog) (session : Session) (s : SourceStatement)
    (d : ImportDeclaration) (converted : (session.convert catalog s).1 = .importing d) :
    let text := (session.convert catalog s).1.print
    let typed := s.body.hasToken "type"
    ∃ clause module inside, s.body.childOfKind? "import_clause" = some clause ∧
      s.body.field? "source" = some module ∧ decodeString module.text = some d.source ∧
      IsLiteral (quoteModule d.source) inside ∧
      (∀ c, isLineTerminator c = true → (c ∈ inside ↔ c ∈ d.source.toList)) ∧
      (clause.clausePlaces = [] →
        text = "import " ++ typeWord typed ++ quoteModule d.source ++ ";") ∧
      (clause.clausePlaces ≠ [] → ∃ groups, groups ≠ [] ∧
        (∀ g ∈ groups, Group (· ∈ d.names) g) ∧
        text = "import " ++ typeWord typed ++ join ", " groups ++ " from " ++
          quoteModule d.source ++ ";") ∧
      let fits := (typed = true → clause.clausePlaces ≠ []) ∧ Unbroken d.source
      (fits → Import (· ∈ d.names) text) ∧
        ∀ IsName : String → Prop, (∀ name, IsName name → IsIdentifier name) →
          Import IsName text → fits := by
  have value := converted
  rw [Session.convert_value] at value
  have content : s.content = .importing d := (statement_importing _ s d).mp value
  obtain ⟨-, clause, module, found, source, decoded, read, kind⟩ :=
    (import_content_iff s.body d).mp content
  have nothing : clause.clausePlaces = [] ↔ d.specifiers = [] :=
    names_nothing_iff clause d.specifiers ((clause_read_iff clause _).mp read)
  have typed : decide (d.kind = .type) = s.body.hasToken "type" := by
    rw [kind, Bool.eq_iff_iff, decide_eq_true_iff]
    exact type_import_iff s.body
  have names : ∀ spec ∈ d.specifiers, ∀ name ∈ spec.names, name ∈ d.names :=
    fun spec member name inside => List.mem_flatMap.mpr ⟨spec, member, inside⟩
  have naming : (d.kind = .type → d.specifiers ≠ []) ↔
      (s.body.hasToken "type" = true → clause.clausePlaces ≠ []) := by
    rw [← typed, decide_eq_true_iff, Ne, Ne, nothing]
  refine ⟨clause, module, _, found, source, decoded, quoted_literal d.source, ?_, ?_, ?_, ?_, ?_⟩
  · exact fun c terminator => mem_quoted_iff _ c (terminator_plain c terminator)
  · intro empty
    rw [converted, ← typed]
    exact print_bare d (nothing.mp empty)
  · intro some
    have filled : d.specifiers ≠ [] := fun empty => some (nothing.mpr empty)
    have groups : d.clause ≠ [] := fun empty => filled ((clause_empty_iff d).mp empty)
    refine ⟨d.clause, groups, clause_groups _ d names, ?_⟩
    rw [converted, ← typed]
    exact print_clause d filled
  · rintro ⟨named, unbroken⟩
    rw [converted]
    exact printed_import _ d names (naming.mpr named) unbroken
  · intro IsName words sentence
    rw [converted] at sentence
    exact (import_printed_only IsName words d sentence).imp_left naming.mp

theorem repeated_import_fits :
    let converted := (Session.start.convert .builtin repeatedImport.statement).1
    converted = .importing repeatedDeclaration ∧
      Import (· ∈ repeatedDeclaration.names) converted.print := by
  have converted := repeated_import_converted
  obtain ⟨clause, _, _, _, _, _, _, _, _, _, fits, _⟩ :=
    import_grammatical_unless .builtin .start repeatedImport.statement repeatedDeclaration converted
  have value : repeatedImport.statement.body.hasToken "type" = false := by decide
  exact ⟨converted, fits ⟨fun typed => absurd typed (by simp [value]), by decide⟩⟩

-- The import `import type {} from 'm';`.
def emptyTypeImport : Node :=
  ⟨"import_statement", [], true, ⟨0, 24⟩, "import type \x7b\x7d from 'm';", "program", [
    SampleImport.token "import" "import_statement" 0,
    SampleImport.token "type" "import_statement" 7,
    ⟨"import_clause", [], true, ⟨12, 14⟩, "\x7b\x7d", "import_statement",
      [SampleImport.list "\x7b\x7d" 12 []]⟩,
    SampleImport.token "from" "import_statement" 15,
    ⟨"string", ["source"], true, ⟨20, 23⟩, "'m'", "import_statement", []⟩,
    SampleImport.token ";" "import_statement" 23]⟩

-- The import `import A from 'a\nb';`, with an escape in the name of the module.
def twoLineImport : Node :=
  SampleImport.statement
    (SampleImport.clause "A" [SampleImport.name "A" [] "import_clause" 7]) "'a\\nb'"

theorem ungrammatical_imports_printed :
    (∃ d, (Session.start.convert .builtin emptyTypeImport.statement).1 = .importing d ∧
      (Statement.importing d).print = "import type 'm';") ∧
    (∃ d, (Session.start.convert .builtin twoLineImport.statement).1 = .importing d ∧
      (Statement.importing d).print = "import A from 'a\nb';") ∧
    ∀ IsName : String → Prop, (∀ name, IsName name → IsIdentifier name) →
      ¬ Import IsName "import type 'm';" ∧ ¬ Import IsName "import A from 'a\nb';" := by
  have empty : emptyTypeImport.statement.content = .importing ⟨.type, [], "m"⟩ := by
    have importing : emptyTypeImport.statement.body.construct = .importDeclaration := by decide
    exact (import_content_iff _ _).mpr ⟨importing, _, _, rfl, rfl, quoted_decoded "m", rfl, rfl⟩
  have lines : twoLineImport.statement.content = .importing ⟨.value, [.default "A"], "a\nb"⟩ := by
    have importing : twoLineImport.statement.body.construct = .importDeclaration := by decide
    have decoded : decodeString "'a\\nb'" = some "a\nb" := by decide +kernel
    exact (import_content_iff _ _).mpr ⟨importing, _, _, rfl, rfl, decoded, rfl, rfl⟩
  have shown (n : Node) (d : ImportDeclaration) (content : n.statement.content = .importing d) :
      (Session.start.convert .builtin n.statement).1 = .importing d := by
    rw [Session.convert_value]
    exact (statement_importing _ _ _).mpr content
  refine ⟨⟨_, shown _ _ empty, rfl⟩, ⟨_, shown _ _ lines, rfl⟩, fun IsName words => ⟨?_, ?_⟩⟩
  · intro sentence
    exact (import_printed_only IsName words ⟨.type, [], "m"⟩ sentence).1 rfl rfl
  · intro sentence
    have broken : ¬ Unbroken "a\nb" := by decide
    exact broken (import_printed_only IsName words ⟨.value, [.default "A"], "a\nb"⟩ sentence).2

end FlowDefs
