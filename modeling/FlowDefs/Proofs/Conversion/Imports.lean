import FlowDefs.Flow.Printer
import FlowDefs.Proofs.Conversion.Refinement
import FlowDefs.Proofs.Text.Quoting
set_option autoImplicit false

namespace FlowDefs

open Text

def importKind (body : Node) : ImportKind := if body.hasToken "type" then .type else .value

theorem import_content_iff (body : Node) (d : ImportDeclaration) :
    Content.ofBody body = .importing d ↔ body.construct = .importDeclaration ∧
      ∃ clause module, body.childOfKind? "import_clause" = some clause ∧
        body.field? "source" = some module ∧ decodeString module.text = some d.source ∧
        untilFault (clause.parts.flatMap Content.specifiers) = (d.specifiers, none) ∧
        d.kind = importKind body := by
  constructor
  · intro same
    have importing : body.construct = .importDeclaration := by
      unfold Content.ofBody at same
      split at same
      · assumption
      · unfold Content.ofExportAssignment at same
        repeat' split at same
        all_goals cases same
      · unfold Content.ofVariables at same
        dsimp only at same
        split at same <;> cases same
      · unfold Content.ofTypeAlias at same
        repeat' split at same
        all_goals cases same
      · unfold Content.ofFunction at same
        split at same <;> cases same
      · split at same <;> cases same
    refine ⟨importing, ?_⟩
    rw [Content.ofBody, importing] at same
    dsimp only at same
    unfold Content.ofImport at same
    split at same
    · cases same
    · next clause found =>
        split at same
        · cases same
        · next module source =>
            split at same
            · cases same
            · next name decoded =>
                unfold Content.ofClause at same
                split at same
                · next read readable =>
                    cases same
                    exact ⟨clause, module, found, source, decoded, readable, rfl⟩
                · cases same
  · rintro ⟨importing, clause, module, found, source, decoded, readable, kind⟩
    have whole : d = ⟨importKind body, d.specifiers, d.source⟩ := by rw [← kind]
    rw [Content.ofBody, importing]
    simp only [Content.ofImport, found, source, decoded, Content.ofClause, readable]
    exact congrArg Content.importing whole.symm

theorem statement_importing (resolve : Resolver) (s : SourceStatement) (d : ImportDeclaration) :
    (s.toFlow resolve).value = .importing d ↔ s.content = .importing d := by
  have content : (s.content.toFlow resolve s.node.quote).value = .importing d ↔
      s.content = .importing d := by
    cases s.content with
    | unsupported _ => simp [Content.toFlow, Statement.unsupported, Statement.placeholder]
    | rejected _ => simp [Content.toFlow, Statement.invalid, Statement.placeholder]
    | abandoned _ _ _ => simp [Content.toFlow, Statement.invalid, Statement.placeholder]
    | _ => simp [Content.toFlow]
  rw [← content]
  unfold SourceStatement.toFlow
  cases s.exported with
  | none => rfl
  | some modifier =>
      dsimp only
      rw [Converted.value_bind]
      cases (s.content.toFlow resolve s.node.quote).value with
      | declaration _ => cases modifier <;> simp [exportStatement]
      | _ => rfl

-- All that is printed before the name of the module.
def ImportDeclaration.clauseText (d : ImportDeclaration) : String :=
  "import " ++ (if d.kind = .type then "type " else "") ++
    (if d.clause.isEmpty then "" else join ", " d.clause ++ " from ")

theorem import_printed (d : ImportDeclaration) (source : String) :
    (Statement.importing { d with source := source }).print =
      d.clauseText ++ quoteModule source ++ ";" := rfl

theorem module_quoting_undone :
    (∀ name : String, decodeString (quoteModule name) = some name) ∧
      Function.Injective quoteModule ∧
      ∀ (catalog : Catalog) (session : Session) (s : SourceStatement) (d : ImportDeclaration),
        (session.convert catalog s).1 = .importing d →
        ∃ module name, s.body.field? "source" = some module ∧
          decodeString module.text = some name ∧
          ∃ clause specifier, (session.convert catalog s).1.print = clause ++ specifier ++ ";" ∧
            decodeString specifier = some name ∧
            ∀ other, (Statement.importing { d with source := other }).print =
              clause ++ quoteModule other ++ ";" := by
  refine ⟨quoted_decoded, quote_injective, ?_⟩
  intro catalog session s d converted
  have value := converted
  rw [Session.convert_value] at value
  have content : s.content = .importing d := (statement_importing _ s d).mp value
  obtain ⟨-, clause, module, -, source, decoded, -⟩ := (import_content_iff s.body d).mp content
  refine ⟨module, d.source, source, decoded, d.clauseText, quoteModule d.source, ?_,
    quoted_decoded d.source, import_printed d⟩
  rw [converted]
  exact import_printed d d.source

-- The import `import A from 'it\'s';`.
def escapedImport : Node :=
  ⟨"import_statement", [], true, ⟨0, 22⟩, "import A from 'it\\'s';", "program", [
    ⟨"import", [], false, ⟨0, 6⟩, "import", "import_statement", []⟩,
    ⟨"import_clause", [], true, ⟨7, 8⟩, "A", "import_statement",
      [⟨"identifier", [], true, ⟨7, 8⟩, "A", "import_clause", []⟩]⟩,
    ⟨"from", [], false, ⟨9, 13⟩, "from", "import_statement", []⟩,
    ⟨"string", ["source"], true, ⟨14, 21⟩, "'it\\'s'", "import_statement", []⟩,
    ⟨";", [], false, ⟨21, 22⟩, ";", "import_statement", []⟩]⟩

def escapedDeclaration : ImportDeclaration := ⟨.value, [.default "A"], "it's"⟩

theorem escaped_import_quoted :
    let converted := (Session.start.convert .empty escapedImport.statement).1
    converted = .importing escapedDeclaration ∧
      ∃ module name, escapedImport.statement.body.field? "source" = some module ∧
        decodeString module.text = some name ∧
        ∃ clause specifier, converted.print = clause ++ specifier ++ ";" ∧
          decodeString specifier = some name ∧
          ∀ other, (Statement.importing { escapedDeclaration with source := other }).print =
            clause ++ quoteModule other ++ ";" := by
  have importing : escapedImport.statement.body.construct = .importDeclaration := by decide
  have content : escapedImport.statement.content = .importing escapedDeclaration :=
    (import_content_iff _ _).mpr ⟨importing, _, _, rfl, rfl, quoted_decoded "it's", rfl, rfl⟩
  have converted : (Session.start.convert .empty escapedImport.statement).1 =
      .importing escapedDeclaration := by
    rw [Session.convert_value]
    exact (statement_importing _ _ _).mpr content
  exact ⟨converted,
    module_quoting_undone.2.2 .empty .start escapedImport.statement escapedDeclaration converted⟩

end FlowDefs
