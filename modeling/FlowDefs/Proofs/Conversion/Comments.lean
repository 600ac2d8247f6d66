import FlowDefs.Conversion.File
import FlowDefs.Library.Builtin
import FlowDefs.Proofs.TypeScript.Comments
set_option autoImplicit false

namespace FlowDefs

namespace Session

theorem convert_uncommented (catalog : Catalog) (session : Session) (n : Node)
    (plain : n.PlainComments) :
    session.convert catalog n.uncommented.statement = session.convert catalog n.statement := by
  have body := Node.plain_inside n.statement.body n plain (Node.statement_body_mem n)
  have content : n.uncommented.statement.content = n.statement.content := by
    rw [Node.uncommented_statement n plain]
    exact Content.uncommented_content n.statement.body body
  have quote : n.uncommented.statement.node.quote = n.statement.node.quote := by
    rw [Node.statement_node, Node.statement_node, Node.uncommented_quote]
  have exported : n.uncommented.statement.exported = n.statement.exported := by
    rw [Node.uncommented_statement n plain]
  unfold convert SourceStatement.convert
  rw [content, quote, exported]

theorem convert_all_uncommented (catalog : Catalog) (session : Session) (ns : List Node)
    (plain : ∀ n ∈ ns, n.PlainComments) :
    session.convertAll catalog (ns.map fun n => n.uncommented.statement) =
      session.convertAll catalog (ns.map Node.statement) := by
  induction ns generalizing session with
  | nil => rfl
  | cons n ns ih =>
      have first := convert_uncommented catalog session n (plain n List.mem_cons_self)
      have rest (next : Session) := ih next fun m member => plain m (List.mem_cons_of_mem n member)
      rw [List.map_cons, List.map_cons, convertAll, convertAll, first, rest]

end Session

theorem convert_file_uncommented (catalog : Catalog) (name : String) (root : Node)
    (plain : root.PlainComments) :
    convertFile catalog name root.uncommented = convertFile catalog name root := by
  have statements : root.uncommented.statements =
      root.parts.map fun n => n.uncommented.statement := by
    rw [Node.statements, Node.uncommented_parts, List.map_map]
    rfl
  have result := Session.convert_all_uncommented catalog .start root.parts fun n part =>
    Node.plain_inside n root plain (Node.part_mem_nodes n root part)
  unfold convertFile
  rw [statements, result, Node.statements]

theorem comments_without_influence (catalog : Catalog) (name : String) (root thinned : Node)
    (plain : root.PlainComments) (deleted : Node.Thinned root thinned) :
    convertFile catalog name thinned = convertFile catalog name root := by
  rw [← convert_file_uncommented catalog name root plain,
    ← convert_file_uncommented catalog name thinned (Node.thinned_plain root thinned deleted plain),
    Node.thinned_uncommented root thinned deleted]

def blockComment (span : Span) (text parent : String) : Node :=
  ⟨"comment", [], true, span, text, parent, []⟩

def aliasName : Node :=
  ⟨"type_identifier", ["name"], true, ⟨10, 11⟩, "A", "type_alias_declaration", []⟩

def aliasValue : Node :=
  ⟨"predefined_type", ["value"], true, ⟨17, 23⟩, "string", "type_alias_declaration", []⟩

def aliasAround (children : List Node) : Node :=
  ⟨"program", [], true, ⟨0, 24⟩, "/*a*/type A=/*b*/string;", "",
    [blockComment ⟨0, 5⟩ "/*a*/" "program",
      ⟨"type_alias_declaration", [], true, ⟨5, 24⟩, "type A=/*b*/string;", "program", children⟩]⟩

def commentedAlias : Node :=
  aliasAround [aliasName, blockComment ⟨12, 17⟩ "/*b*/" "type_alias_declaration", aliasValue]

theorem comment_in_alias : commentedAlias.PlainComments ∧
    Node.Thinned commentedAlias (aliasAround [aliasName, aliasValue]) ∧
    convertFile .builtin "a.d.ts" (aliasAround [aliasName, aliasValue]) =
      convertFile .builtin "a.d.ts" commentedAlias := by
  have plain : commentedAlias.PlainComments := by
    unfold Node.PlainComments Node.PlainComment
    decide
  have leaf (kind : String) (fields : List String) (named : Bool) (span : Span)
      (text parent : String) : Node.Thinned ⟨kind, fields, named, span, text, parent, []⟩
        ⟨kind, fields, named, span, text, parent, []⟩ := .node _ _ _ _ _ _ _ _ .nil
  have inside : Node.ThinnedAll
      [aliasName, blockComment ⟨12, 17⟩ "/*b*/" "type_alias_declaration", aliasValue]
      [aliasName, aliasValue] :=
    .keep _ _ _ _ (leaf ..) (.drop _ _ _ rfl (.keep _ _ _ _ (leaf ..) .nil))
  have deleted : Node.Thinned commentedAlias (aliasAround [aliasName, aliasValue]) :=
    .node _ _ _ _ _ _ _ _ (.keep _ _ _ _ (leaf ..)
      (.keep _ _ _ _ (.node _ _ _ _ _ _ _ _ inside) .nil))
  exact ⟨plain, deleted, comments_without_influence .builtin "a.d.ts" _ _ plain deleted⟩

end FlowDefs
