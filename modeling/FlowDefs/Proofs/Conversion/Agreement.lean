import FlowDefs.Flow.Format
import FlowDefs.Library.Builtin
import FlowDefs.Proofs.Conversion.Completeness
import FlowDefs.Proofs.Conversion.Isolation
import FlowDefs.Proofs.Flow.Encoded
import FlowDefs.Syntax.Outline
set_option autoImplicit false

namespace FlowDefs

theorem FlowType.complete_settled (source : Node) (t : FlowType) (complete : t.Complete source) :
    t.Settled := by
  cases t with
  | literal value =>
      cases value with
      | boolean value raw => exact complete
      | _ => exact trivial
  | reference name arguments comments =>
      rcases complete.2 with none | ⟨same, bare, -, -, tag, -, rfl⟩
      · exact .inl none
      · exact .inr ⟨same, bare, rfl⟩
  | _ => exact trivial

theorem Statement.complete_settled (resolve : Resolver) (source : Node) (s : Statement)
    (complete : s.Complete resolve source) : s.Settled := by
  constructor
  · intro comments same
    obtain ⟨tag, -, rfl⟩ := complete.placeholder comments same
    rfl
  · intro u contains
    exact u.complete_settled source (complete.contained u contains).1

theorem converted_settled (catalog : Catalog) (name : String) (root : Node) :
    ∀ s ∈ (convertFile catalog name root).file.body, s.Settled := by
  intro s member
  rw [(convert_file_apart catalog name root).1] at member
  obtain ⟨i, inside, rfl⟩ := List.mem_mapIdx.mp member
  have listed : root.statements[i] ∈ root.statements := List.getElem_mem inside
  obtain ⟨n, -, same⟩ := List.mem_map.mp listed
  rw [← same]
  exact Statement.complete_settled _ n _ (converted_statement_complete _ _ n)

-- Every object with comments is a placeholder, and the comments that the printer puts into the body
-- are those of the placeholders, two to each. What else stands in the body is text of the printer
-- without comments and text of the source; of its tokens only a number can hold comments.
theorem placeholders_shown (catalog : Catalog) (name : String) (root : Node) :
    let converted := convertFile catalog name root
    let text := converted.file.bodyText
    let fragments := converted.file.bodyTemplate.fill
    let shown := converted.file.body.flatMap Statement.placeholderComments
    converted.encode.commented = converted.placeholders ∧
      Format.flow.write converted = File.print { converted.file with body := [] } ++ text ∧
      text.toList = fragments.flatMap Fragment.chars ∧
      fragments.filterMap Fragment.comment? = shown.flatMap printOrder ∧
      shown.length = converted.placeholders ∧ (∀ comments ∈ shown, comments.length = 2) ∧
      ((∀ f ∈ fragments, f.Token) →
        Text.blockComments text.toList = fragments.flatMap Fragment.blocks ∧
          ((∀ f ∈ fragments, f.Quiet) →
            Text.blockComments text.toList =
              (shown.flatMap printOrder).map fun c => Text.commentInside c.text)) := by
  intro converted text fragments shown
  have settled := converted_settled catalog name root
  have comments := converted.file.body_comments settled
  refine ⟨converted_commented _ settled, converted.file.print_body, converted.file.body_chars.symm,
    comments, converted.shown_length, ?_, fun tokens => ?_⟩
  · intro comments member
    obtain ⟨s, listed, inside⟩ := List.mem_flatMap.mp member
    exact s.two_comments (settled s listed) comments inside
  · have blocks := converted.file.body_blocks tokens
    refine ⟨blocks, fun quiet => ?_⟩
    rw [blocks, ← comments]
    exact blocks_of_quiet fragments quiet

-- A string that is never closed, beside a type without a counterpart.
def unclosedRows : List Row := [
  ⟨"program", [], true, ⟨0, 41⟩, 2⟩,
  ⟨"type_alias_declaration", [], true, ⟨0, 17⟩, 5⟩,
  ⟨"type", [], false, ⟨0, 4⟩, 0⟩,
  ⟨"type_identifier", ["name"], true, ⟨5, 6⟩, 0⟩,
  ⟨"=", [], false, ⟨7, 8⟩, 0⟩,
  ⟨"index_type_query", ["value"], true, ⟨9, 16⟩, 2⟩,
  ⟨"keyof", [], false, ⟨9, 14⟩, 0⟩,
  ⟨"type_identifier", [], true, ⟨15, 16⟩, 0⟩,
  ⟨";", [], false, ⟨16, 17⟩, 0⟩,
  ⟨"interface_declaration", [], true, ⟨18, 41⟩, 3⟩,
  ⟨"interface", [], false, ⟨18, 27⟩, 0⟩,
  ⟨"type_identifier", ["name"], true, ⟨28, 29⟩, 0⟩,
  ⟨"interface_body", ["body"], true, ⟨30, 41⟩, 3⟩,
  ⟨"\x7b", [], false, ⟨30, 31⟩, 0⟩,
  ⟨"property_signature", [], true, ⟨32, 41⟩, 2⟩,
  ⟨"property_identifier", ["name"], true, ⟨32, 33⟩, 0⟩,
  ⟨"type_annotation", ["type"], true, ⟨33, 41⟩, 2⟩,
  ⟨":", [], false, ⟨33, 34⟩, 0⟩,
  ⟨"literal_type", [], true, ⟨35, 41⟩, 1⟩,
  ⟨"string", [], true, ⟨35, 41⟩, 3⟩,
  ⟨"\"", [], false, ⟨35, 36⟩, 0⟩,
  ⟨"string_fragment", [], true, ⟨36, 41⟩, 0⟩,
  ⟨"\"", [], false, ⟨41, 41⟩, 0⟩,
  ⟨"\x7d", [], false, ⟨41, 41⟩, 0⟩]

def unclosedSource : String := "type T = keyof X;\ninterface I \x7b a: \"abc \x7d"

theorem unclosed_string_shown : ∃ root ∈ Node.ofRows? unclosedSource unclosedRows,
    let converted := convertFile .builtin "input.d.ts" root
    converted.placeholders = 2 ∧ converted.encode.commented = 2 ∧
      Text.blockComments converted.file.bodyText.toList =
        [" keyof X ".toList, " tsflow-unimplemented: TypeOperator ".toList,
          " tsflow-unimplemented: InterfaceDeclaration ".toList,
          " interface I \x7b a: \"abc \x7d ".toList] := by
  have checks : ((Node.ofRows? unclosedSource unclosedRows).map fun root =>
      let converted := convertFile .builtin "input.d.ts" root
      let fragments := converted.file.bodyTemplate.fill
      let shown := converted.file.body.flatMap Statement.placeholderComments
      (converted.placeholders, decide (∀ f ∈ fragments, f.Token),
        decide (∀ f ∈ fragments, f.Quiet),
        (shown.flatMap printOrder).map fun c => Text.commentInside c.text)) =
      some (2, true, true, [" keyof X ".toList, " tsflow-unimplemented: TypeOperator ".toList,
          " tsflow-unimplemented: InterfaceDeclaration ".toList,
          " interface I \x7b a: \"abc \x7d ".toList]) := by decide +kernel
  obtain ⟨root, found, same⟩ := Option.map_eq_some_iff.mp checks
  simp only [Prod.mk.injEq, decide_eq_true_eq] at same
  obtain ⟨counted, tokens, quiet, comments⟩ := same
  obtain ⟨commented, -, -, -, -, -, blocks⟩ :=
    placeholders_shown .builtin "input.d.ts" root
  exact ⟨root, found, counted, commented.trans counted,
    ((blocks tokens).2 quiet).trans comments⟩

-- The source text of the number is printed as it stands.
def signedRows : List Row := [
  ⟨"program", [], true, ⟨0, 17⟩, 1⟩,
  ⟨"type_alias_declaration", [], true, ⟨0, 17⟩, 5⟩,
  ⟨"type", [], false, ⟨0, 4⟩, 0⟩,
  ⟨"type_identifier", ["name"], true, ⟨5, 6⟩, 0⟩,
  ⟨"=", [], false, ⟨7, 8⟩, 0⟩,
  ⟨"literal_type", ["value"], true, ⟨9, 16⟩, 1⟩,
  ⟨"unary_expression", [], true, ⟨9, 16⟩, 3⟩,
  ⟨"-", ["operator"], false, ⟨9, 10⟩, 0⟩,
  ⟨"comment", [], true, ⟨10, 15⟩, 0⟩,
  ⟨"number", ["argument"], true, ⟨15, 16⟩, 0⟩,
  ⟨";", [], false, ⟨16, 17⟩, 0⟩]

theorem signed_number_keeps_comment :
    ∃ root ∈ Node.ofRows? "type T = -/*c*/5;" signedRows,
      let converted := convertFile .builtin "input.d.ts" root
      converted.placeholders = 0 ∧
        Text.blockComments converted.file.bodyText.toList = [['c']] := by
  have checks : ((Node.ofRows? "type T = -/*c*/5;" signedRows).map fun root =>
      let converted := convertFile .builtin "input.d.ts" root
      (converted.placeholders, Text.blockComments converted.file.bodyText.toList)) =
      some (0, [['c']]) := by decide +kernel
  obtain ⟨root, found, same⟩ := Option.map_eq_some_iff.mp checks
  simp only [Prod.mk.injEq] at same
  exact ⟨root, found, same⟩

end FlowDefs
