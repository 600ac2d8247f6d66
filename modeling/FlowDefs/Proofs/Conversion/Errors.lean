import FlowDefs.Library.Builtin
import FlowDefs.Proofs.Conversion.Placeholders
import FlowDefs.Proofs.Syntax.Subtree
import FlowDefs.Syntax.Outline
set_option autoImplicit false

namespace FlowDefs

namespace Node

-- A node that is read as a type looks at these nodes as what they stand for.
inductive LooksAt (d : Node) : Node → Prop where
  | itself : LooksAt d d
  | literal (n : Node) (literal : n.construct = .literalType) (first : n.firstPart? = some d) :
      LooksAt d n
  | member (n : Node) (object : n.construct = .typeLiteral) (part : d ∈ n.parts) : LooksAt d n
  | memberName (n m : Node) (object : n.construct = .typeLiteral) (part : m ∈ n.parts)
      (property : m.construct = .propertySignature) (name : m.field? "name" = some d) : LooksAt d n

def IsError (n : Node) : Prop := n.kind = "ERROR"

instance (n : Node) : Decidable n.IsError := inferInstanceAs (Decidable (_ = _))

theorem error_construct (n : Node) (error : n.IsError) : n.construct = .error :=
  construct_of_kind n "ERROR" .error error (by decide) (by decide)

end Node

theorem until_fault_some {ε α : Type} (xs : List (Except ε α)) (fault : ε)
    (member : .error fault ∈ xs) : ∃ first, (untilFault xs).2 = some first := by
  induction xs with
  | nil => cases member
  | cons x xs ih =>
      cases x with
      | error first => exact ⟨first, rfl⟩
      | ok y =>
          rcases List.mem_cons.mp member with impossible | later
          · cases impossible
          · exact ih later

namespace TypeExpr

variable (resolve : Resolver)

theorem error_untranslated (d : Node) (error : d.IsError) : (ofNode d).Untranslated resolve := by
  rw [of_node_eq, d.error_construct error]
  exact .invalid _ _

theorem error_literal (n d : Node) (error : d.IsError) (literal : n.construct = .literalType)
    (first : n.firstPart? = some d) : (ofNode n).Untranslated resolve := by
  rw [of_node_eq, literal]
  simp only [Construct.typeForm, ofLiteral, first, d.error_construct error]
  exact .invalid _ _

theorem faulty_member (n m : Node) (object : n.construct = .typeLiteral) (part : m ∈ n.parts)
    (fault : Fault) (faulty : member m = .error fault) : (ofNode n).Untranslated resolve := by
  have listed : .error fault ∈ members n := by
    rw [members_eq, ← faulty]
    exact List.mem_map_of_mem part
  obtain ⟨first, some⟩ := until_fault_some (members n) fault listed
  rw [of_node_eq, object]
  simp only [Construct.typeForm, some]
  exact .object _ _ _

theorem looked_at_untranslated (n d : Node) (error : d.IsError) (looks : d.LooksAt n) :
    (ofNode n).Untranslated resolve := by
  cases looks with
  | itself => exact error_untranslated resolve _ error
  | literal _ formed first => exact error_literal resolve n d error formed first
  | member _ formed part =>
      refine faulty_member resolve n d formed part (.unexpectedMember d.describe) ?_
      simp [member, d.error_construct error, Construct.isUnsupportedMember]
  | memberName _ m formed part property name =>
      refine faulty_member resolve n m formed part (.unsupportedPropertyName d.kind) ?_
      simp [member, property, Node.propertyKey, name, d.error_construct error, Except.map]

end TypeExpr

-- What the conversion of a statement looks at, and does not drop.
inductive SourceStatement.LooksAt (resolve : Resolver) (s : SourceStatement) (d : Node) : Prop where
  | body (itself : s.body = d)
  | type (t : TypeExpr) (n : Node) (listed : t ∈ s.content.types)
      (kept : TypeExpr.Keeps resolve (.ofNode n) t) (looks : d.LooksAt n)
  | variableName (declarator : Node) (binding : s.body.construct = .variableStatement)
      (part : declarator ∈ s.body.parts) (kind : declarator.kind = "variable_declarator")
      (name : declarator.field? "name" = some d)
  | importPart (clause : Node) (importing : s.body.construct = .importDeclaration)
      (found : s.body.childOfKind? "import_clause" = some clause) (part : d ∈ clause.parts)
  | exported (exporting : s.body.construct = .exportAssignment)
      (value : s.body.field? "value" = some d)

namespace Content

theorem variables_refused (body declarator d : Node) (error : d.IsError)
    (part : declarator ∈ body.parts) (kind : declarator.kind = "variable_declarator")
    (name : declarator.field? "name" = some d) : (ofVariables body).isRefused = true := by
  have listed : .error (.unsupportedPattern d.kind) ∈
      (body.parts.filter fun c => c.kind = "variable_declarator").map declared := by
    refine List.mem_map.mpr ⟨declarator, List.mem_filter.mpr ⟨part, by simp [kind]⟩, ?_⟩
    simp [declared, name, d.error_construct error]
  obtain ⟨first, some⟩ := until_fault_some _ _ listed
  rw [ofVariables]
  split
  · next read none => rw [none] at some; cases some
  · rfl

theorem import_refused (body clause d : Node) (error : d.IsError)
    (found : body.childOfKind? "import_clause" = some clause) (part : d ∈ clause.parts) :
    (ofImport body).isRefused = true := by
  have listed : .error (.unexpectedImportPart d.kind) ∈ clause.parts.flatMap specifiers := by
    refine List.mem_flatMap.mpr ⟨d, part, ?_⟩
    simp [specifiers, show d.kind = "ERROR" from error]
  obtain ⟨first, some⟩ := until_fault_some _ _ listed
  rw [ofImport, found]
  dsimp only
  split
  · rfl
  · split
    · rfl
    · rw [ofClause]
      split
      · next read none => rw [none] at some; cases some
      · rfl

theorem export_refused (body d : Node) (error : d.IsError) (value : body.field? "value" = some d) :
    (ofExportAssignment body).isRefused = true := by
  rw [ofExportAssignment, value]
  split
  · rfl
  · simp [d.error_construct error, isRefused]

theorem error_refused (body : Node) (error : body.IsError) : (ofBody body).isRefused = true := by
  rw [ofBody, body.error_construct error]
  rfl

end Content

theorem looked_at_shown (resolve : Resolver) (s : SourceStatement) (d : Node) (error : d.IsError)
    (looks : s.LooksAt resolve d) : 0 < (s.toFlow resolve).value.placeholders := by
  rw [statement_has_placeholder_iff, SourceStatement.content]
  cases looks with
  | body itself =>
      rw [itself]
      exact .inl (Content.error_refused d error)
  | type t n listed kept looks =>
      exact .inr ⟨t, listed, _, kept, TypeExpr.looked_at_untranslated resolve n d error looks⟩
  | variableName declarator binding part kind name =>
      left
      rw [Content.ofBody, binding]
      exact Content.variables_refused s.body declarator d error part kind name
  | importPart clause importing found part =>
      left
      rw [Content.ofBody, importing]
      exact Content.import_refused s.body clause d error found part
  | exported exporting value =>
      left
      rw [Content.ofBody, exporting]
      exact Content.export_refused s.body d error value

theorem error_shown (catalog : Catalog) (session : Session) (n d : Node) (error : d.IsError)
    (looks : n.statement.LooksAt (catalog.resolve session.bindings) d) :
    1 ≤ (session.convert catalog n.statement).1.placeholders := by
  rw [Session.convert_value]
  exact looked_at_shown _ n.statement d error looks

-- The declaration `type A = [a, , b];` with an error for the missing element.
namespace BrokenTuple

def missing : Node :=
  ⟨"ERROR", [], true, ⟨11, 12⟩, ",", "tuple_type", [⟨",", [], false, ⟨11, 12⟩, ",", "ERROR", []⟩]⟩

def tuple : Node :=
  ⟨"tuple_type", ["value"], true, ⟨9, 17⟩, "[a, , b]", "type_alias_declaration", [
    ⟨"[", [], false, ⟨9, 10⟩, "[", "tuple_type", []⟩,
    ⟨"type_identifier", [], true, ⟨10, 11⟩, "a", "tuple_type", []⟩,
    missing,
    ⟨",", [], false, ⟨13, 14⟩, ",", "tuple_type", []⟩,
    ⟨"type_identifier", [], true, ⟨15, 16⟩, "b", "tuple_type", []⟩,
    ⟨"]", [], false, ⟨16, 17⟩, "]", "tuple_type", []⟩]⟩

def declared : Node :=
  ⟨"type_alias_declaration", [], true, ⟨0, 18⟩, "type A = [a, , b];", "program", [
    ⟨"type", [], false, ⟨0, 4⟩, "type", "type_alias_declaration", []⟩,
    ⟨"type_identifier", ["name"], true, ⟨5, 6⟩, "A", "type_alias_declaration", []⟩,
    ⟨"=", [], false, ⟨7, 8⟩, "=", "type_alias_declaration", []⟩,
    tuple,
    ⟨";", [], false, ⟨17, 18⟩, ";", "type_alias_declaration", []⟩]⟩

theorem missing_kept (resolve : Resolver) :
    TypeExpr.Keeps resolve (.ofNode missing) (.ofNode tuple) := by
  have form : tuple.construct.typeForm = .tuple := by decide
  have read : TypeExpr.ofNode tuple = .tuple (tuple.parts.map TypeExpr.ofNode) := by
    rw [TypeExpr.of_node_eq, form, TypeExpr.of_parts_eq]
  have part : missing ∈ tuple.parts := by
    refine List.mem_filter.mpr ⟨?_, by decide⟩
    simp [tuple]
  rw [read]
  exact .inside _ _ (List.mem_map_of_mem part) .here

end BrokenTuple

theorem missing_element_shown :
    BrokenTuple.missing.IsError ∧
      BrokenTuple.declared.statement.LooksAt (Catalog.builtin.resolve []) BrokenTuple.missing ∧
      1 ≤ (Session.start.convert .builtin BrokenTuple.declared.statement).1.placeholders := by
  have looks : BrokenTuple.declared.statement.LooksAt (Catalog.builtin.resolve [])
      BrokenTuple.missing :=
    .type (.ofNode BrokenTuple.tuple) BrokenTuple.missing
      (List.mem_append_right _ List.mem_cons_self) (BrokenTuple.missing_kept _) .itself
  exact ⟨rfl, looks, error_shown .builtin .start BrokenTuple.declared BrokenTuple.missing rfl looks⟩

-- An error between the name of an alias and its type, where nothing looks.
def skippedErrorRows : List Row := [
  ⟨"program", [], true, ⟨0, 13⟩, 1⟩,
  ⟨"type_alias_declaration", [], true, ⟨0, 13⟩, 6⟩,
  ⟨"type", [], false, ⟨0, 4⟩, 0⟩,
  ⟨"type_identifier", ["name"], true, ⟨5, 6⟩, 0⟩,
  ⟨"ERROR", [], true, ⟨7, 8⟩, 1⟩,
  ⟨"identifier", [], true, ⟨7, 8⟩, 0⟩,
  ⟨"=", [], false, ⟨9, 10⟩, 0⟩,
  ⟨"type_identifier", ["value"], true, ⟨11, 12⟩, 0⟩,
  ⟨";", [], false, ⟨12, 13⟩, 0⟩]

theorem error_after_name_vanishes : ∃ root ∈ Node.ofRows? "type A B = c;" skippedErrorRows,
    (∃ s ∈ root.statements, ∃ d ∈ s.node.nodes, d.IsError) ∧
      (convertFile .builtin "input.d.ts" root).placeholders = 0 := by
  have checks : ((Node.ofRows? "type A B = c;" skippedErrorRows).map fun root =>
      (root.statements.any fun s => s.node.nodes.any fun d => d.IsError,
        (convertFile .builtin "input.d.ts" root).placeholders)) = some (true, 0) := by
    decide +kernel
  obtain ⟨root, found, same⟩ := Option.map_eq_some_iff.mp checks
  obtain ⟨errors, none⟩ := Prod.mk.injEq .. ▸ same
  refine ⟨root, found, ?_, none⟩
  obtain ⟨s, listed, inside⟩ := List.any_eq_true.mp errors
  obtain ⟨d, member, error⟩ := List.any_eq_true.mp inside
  exact ⟨s, listed, d, member, of_decide_eq_true error⟩

end FlowDefs
