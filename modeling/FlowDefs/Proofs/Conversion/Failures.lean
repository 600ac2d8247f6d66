import FlowDefs.Flow.Printer
import FlowDefs.Proofs.Conversion.Errors
import FlowDefs.Proofs.Conversion.ObjectTypes
import FlowDefs.Proofs.Conversion.Substitutes
import FlowDefs.Proofs.TypeScript.Places
import Mathlib.Data.List.Flatten
set_option autoImplicit false

namespace FlowDefs

namespace Text

def begins (mark text : String) : Bool := mark.toList.isPrefixOf text.toList

theorem begins_append (head mark text : String) :
    begins (head ++ mark) (head ++ text) = begins mark text := by
  rw [begins, begins, Bool.eq_iff_iff, List.isPrefixOf_iff_prefix, List.isPrefixOf_iff_prefix,
    String.toList_append, String.toList_append]
  exact List.prefix_append_right_inj head.toList

-- A literal is the text of its characters, and is compared by them.
theorem begins_other (mark text : List Char) (other : mark.isPrefixOf text = false) :
    begins (String.ofList mark) (String.ofList text) = false := by
  rw [begins, String.toList_ofList, String.toList_ofList, other]

-- Of two beginnings of a text, one begins with the other.
theorem begins_otherwise (mark head : List Char) (rest : String)
    (shorter : mark.isPrefixOf head = false) (longer : head.isPrefixOf mark = false) :
    begins (String.ofList mark) (String.ofList head ++ rest) = false := by
  rw [Bool.eq_false_iff] at shorter longer ⊢
  intro begun
  have within := List.isPrefixOf_iff_prefix.mp begun
  rw [String.toList_append, String.toList_ofList, String.toList_ofList] at within
  rcases List.prefix_or_prefix_of_prefix within (List.prefix_append head rest.toList) with
    inner | inner
  · exact shorter (List.isPrefixOf_iff_prefix.mpr inner)
  · exact longer (List.isPrefixOf_iff_prefix.mpr inner)

end Text

open Text

def Diagnostic.isInternal (d : Diagnostic) : Bool := begins "internal error: " d.message

def isInternalTag (tag : String) : Bool := begins "tsflow-error: internal error: " tag

-- The reason of a placeholder is the last comment of a type, and leads a statement.
def FlowType.reasons (t : FlowType) : List String :=
  t.placeholderTypes.filterMap fun p => p.comments.getLast?.map Comment.text

def Statement.reasons (s : Statement) : List String :=
  (s.comments.filter Comment.isLeading).map Comment.text ++ s.types.flatMap FlowType.reasons

-- The internal errors that a result shows, at the place of its statement.
def Statement.internalErrors (s : Statement) (span : Span) : List (String × Option Span) :=
  (s.reasons.filter isInternalTag).map fun tag => (tag, some span)

-- The internal errors that are reported, as placeholders show them.
def reportedErrors (diagnostics : List Diagnostic) : List (String × Option Span) :=
  (diagnostics.filter Diagnostic.isInternal).map fun d => (errorTag d.message, d.span)

theorem internal_error_tag (description : String) :
    isInternalTag (errorTag description) = begins "internal error: " description := by
  have mark : "tsflow-error: internal error: " = "tsflow-error: " ++ "internal error: " := by decide
  rw [isInternalTag, mark]
  exact begins_append "tsflow-error: " "internal error: " description

theorem unsupported_tag_external (construct : Construct) :
    isInternalTag (unsupportedTag construct) = false := by
  unfold isInternalTag unsupportedTag
  exact begins_otherwise _ _ _ (by decide) (by decide)

theorem fault_external (fault : Fault) : isInternalTag (errorTag fault.message) = false := by
  rw [internal_error_tag]
  cases fault with
  | componentArguments | elementArguments =>
      dsimp only [Fault.message]
      rw [String.append_assoc]
      exact begins_otherwise _ _ _ (by decide) (by decide)
  | unexpectedSigned | unexpectedLiteral | unexpectedType | unsupportedMember | unexpectedMember
  | unsupportedPropertyName | unexpectedImportPart | unsupportedPattern | unexpectedStatement =>
      exact begins_otherwise _ _ _ (by decide) (by decide)
  | _ => exact begins_other _ _ (by decide)

theorem reported_append (first second : List Diagnostic) :
    reportedErrors (first ++ second) = reportedErrors first ++ reportedErrors second := by
  rw [reportedErrors, List.filter_append, List.map_append]
  rfl

theorem reported_none (diagnostics : List Diagnostic)
    (external : ∀ d ∈ diagnostics, d.isInternal = false) : reportedErrors diagnostics = [] := by
  rw [reportedErrors, List.filter_eq_nil_iff.mpr fun d member => by simp [external d member]]
  rfl

section Types

variable (resolve : Resolver)

theorem type_warning (t : TypeExpr) : ∀ d ∈ (t.toFlow resolve).diagnostics, d.isInternal = false := by
  induction t using TypeExpr.by_parts with
  | step t ih =>
      intro d warned
      rw [(TypeExpr.to_flow_adds resolve t).2] at warned
      rcases List.mem_append.mp warned with below | own
      · obtain ⟨p, converted, inside⟩ := List.mem_flatMap.mp below
        exact ih p (TypeExpr.converted_part resolve t p converted) d inside
      · unfold TypeExpr.ownDiagnostics at own
        split at own
        · rw [List.mem_singleton.mp own]
          exact begins_otherwise _ _ _ (by decide) (by decide)
        · cases own

theorem type_reasons_external (t : TypeExpr) :
    ∀ tag ∈ (t.toFlow resolve).value.reasons, isInternalTag tag = false := by
  intro tag member
  obtain ⟨p, listed, last⟩ := List.mem_filterMap.mp member
  rw [TypeExpr.placeholder_types_value] at listed
  obtain ⟨u, source, rfl⟩ := List.mem_map.mp listed
  have untranslated := ((TypeExpr.mem_placeholder_sources_iff resolve t u).mp source).2
  rcases TypeExpr.untranslated_value resolve u untranslated with
    ⟨quote, construct, same⟩ | ⟨quote, fault, same⟩
  · rw [same] at last
    cases last
    exact unsupported_tag_external construct
  · rw [same] at last
    cases last
    exact fault_external fault

theorem types_reported (types : List TypeExpr) :
    reportedErrors (types.flatMap fun t => (t.toFlow resolve).diagnostics) = [] := by
  apply reported_none
  intro d member
  obtain ⟨t, -, warned⟩ := List.mem_flatMap.mp member
  exact type_warning resolve t d warned

theorem types_external (types : List TypeExpr) :
    ((types.map fun t => (t.toFlow resolve).value).flatMap FlowType.reasons).filter isInternalTag =
      [] := by
  rw [List.filter_eq_nil_iff]
  intro tag member
  obtain ⟨v, listed, inside⟩ := List.mem_flatMap.mp member
  obtain ⟨t, -, rfl⟩ := List.mem_map.mp listed
  simp [type_reasons_external resolve t tag inside]

end Types

def Content.ownDiagnostics (source : Quote) : Content → List Diagnostic
  | .abandoned fault _ _ => [⟨"internal error: " ++ fault.message, some source.span⟩]
  | _ => []

section Statements

variable (resolve : Resolver)

theorem content_to_flow_diagnostics (source : Quote) (content : Content) :
    (content.toFlow resolve source).diagnostics =
      (content.read.flatMap fun t => (t.toFlow resolve).diagnostics) ++
        content.ownDiagnostics source := by
  cases content with
  | declaration d =>
      obtain ⟨_, _, diagnostics⟩ :=
        (Converted.view_eq_each _ _ _ _).mp (declaration_to_flow_types resolve d)
      simp [Content.toFlow, Content.read, Content.types, Content.ownDiagnostics, diagnostics]
  | abandoned fault bound read =>
      obtain ⟨_, _, diagnostics⟩ :=
        (Converted.view_eq_each _ _ _ _).mp (convert_variables_types resolve read)
      simp [Content.toFlow, Content.read, Content.ownDiagnostics, Converted.warn, diagnostics]
  | _ => rfl

theorem placeholder_errors (source : Quote) (tag : String) (span : Span) :
    (Statement.placeholder source tag).internalErrors span =
      if isInternalTag tag then [(tag, some span)] else [] := by
  have reasons : (Statement.placeholder source tag).reasons = [tag] := rfl
  rw [Statement.internalErrors, reasons, List.filter_singleton]
  cases isInternalTag tag <;> rfl

theorem content_reported (source : Quote) (content : Content) :
    reportedErrors (content.toFlow resolve source).diagnostics =
      (content.toFlow resolve source).value.internalErrors source.span := by
  rw [content_to_flow_diagnostics, reported_append, types_reported, List.nil_append]
  cases content with
  | abandoned fault bound read =>
      have reported : begins "internal error: " ("internal error: " ++ fault.message) = true :=
        List.isPrefixOf_iff_prefix.mpr ⟨fault.message.toList, (String.toList_append ..).symm⟩
      have shown := placeholder_errors source (errorTag ("internal error: " ++ fault.message))
        source.span
      rw [internal_error_tag, reported] at shown
      rw [reportedErrors, Content.ownDiagnostics, List.filter_singleton, Diagnostic.isInternal, reported]
      exact shown.symm
  | unsupported construct =>
      have shown := placeholder_errors source (unsupportedTag construct) source.span
      rw [unsupported_tag_external] at shown
      exact shown.symm
  | rejected fault =>
      have shown := placeholder_errors source (errorTag fault.message) source.span
      rw [fault_external] at shown
      exact shown.symm
  | declaration d =>
      have reasons : ((Content.declaration d).toFlow resolve source).value.reasons =
          ((Content.declaration d).types.map fun t => (t.toFlow resolve).value).flatMap
            FlowType.reasons := by
        rw [← content_to_flow_types resolve source (.declaration d)]
        rfl
      rw [Statement.internalErrors, reasons, types_external]
      rfl
  | importing d => rfl
  | exportName name => rfl

theorem export_reasons (modifier : ExportModifier) (source : Quote) (s : Statement) :
    (exportStatement modifier source s).value.reasons = s.reasons := by
  cases s with
  | declaration d => cases modifier <;> rfl
  | _ => rfl

theorem export_reported (modifier : ExportModifier) (source : Quote) (s : Statement) :
    reportedErrors (exportStatement modifier source s).diagnostics = [] := by
  cases s with
  | declaration d => cases modifier <;> rfl
  | empty comments => rfl
  | _ =>
      apply reported_none
      intro d warned
      rw [List.mem_singleton.mp warned]
      exact begins_other _ _ (by decide)

theorem statement_reported (s : SourceStatement) :
    reportedErrors (s.toFlow resolve).diagnostics =
      (s.toFlow resolve).value.internalErrors s.node.span := by
  have content := content_reported resolve s.node.quote s.content
  unfold SourceStatement.toFlow
  cases s.exported with
  | none =>
      rw [Converted.diagnostics_bind, Converted.diagnostics_pure, List.append_nil]
      exact content
  | some modifier =>
      rw [Converted.diagnostics_bind, reported_append, Converted.value_bind]
      dsimp only
      rw [export_reported, List.append_nil, content, Statement.internalErrors,
        Statement.internalErrors, export_reasons]
      rfl

end Statements

namespace Session

variable (catalog : Catalog)

theorem convert_all_reported (session : Session) (statements : List SourceStatement) :
    reportedErrors (session.convertAll catalog statements).2.diagnostics =
      reportedErrors session.diagnostics ++
        (statements.zip (session.convertAll catalog statements).1).flatMap fun (s, result) =>
          result.internalErrors s.node.span := by
  induction statements generalizing session with
  | nil => simp [convertAll]
  | cons s statements ih =>
      rw [convertAll]
      dsimp only
      rw [ih, convert_diagnostics, reported_append, statement_reported, List.append_assoc,
        List.zip_cons_cons, List.flatMap_cons, convert_value]

end Session

namespace TypeExpr

variable (resolve : Resolver)

-- A placeholder for an object type has its warning, and those of a type come in its order.
theorem sources_warned (t : TypeExpr) :
    ((t.placeholderSources resolve).flatMap ownDiagnostics).Sublist
      (t.toFlow resolve).diagnostics := by
  induction t using by_parts with
  | step t ih =>
      rw [(to_flow_adds resolve t).2, placeholder_sources_eq]
      by_cases placeholder : (t.toFlow resolve).value.isPlaceholder = true
      · rw [if_pos placeholder, List.flatMap_singleton]
        exact List.sublist_append_right _ _
      · rw [if_neg placeholder, List.flatMap_assoc]
        have kept : (t.kept resolve).Sublist (t.converted resolve) := by
          unfold kept
          split
          · exact List.nil_sublist _
          · exact List.Sublist.refl _
        have each : ∀ p ∈ t.converted resolve, ((p.placeholderSources resolve).flatMap
            ownDiagnostics).Sublist (p.toFlow resolve).diagnostics :=
          fun p member => ih p (converted_part resolve t p member)
        exact ((kept.flatMap _).trans (List.Sublist.flatMap_right _ each)).trans
          (List.sublist_append_left _ _)

theorem failed_literal (n : Node) (object : n.construct = .typeLiteral)
    (untranslated : (ofNode n).Untranslated resolve) :
    ∃ before m reason, n.FirstOffence before m reason ∧
      ((ofNode n).toFlow resolve).value = .placeholder n.quote ("tsflow-error: " ++ reason) ∧
      (ofNode n).ownDiagnostics = [n.refusal reason] := by
  rw [of_object n object] at untranslated ⊢
  cases faulty : (untilFault (members n)).2 with
  | none =>
      rw [faulty] at untranslated
      cases untranslated
  | some fault =>
      obtain ⟨before, m, offence, -⟩ := first_offence n _ fault (Prod.ext rfl faulty)
      exact ⟨before, m, fault.message, offence, rfl, rfl⟩

theorem source_read (n : Node) (t u : TypeExpr) (read : ReadInside n t)
    (keeps : Keeps resolve u t) : ReadInside n u := by
  induction keeps generalizing n with
  | here => exact read
  | inside t part member inner ih =>
      have deeper := converted_part resolve t part (kept_converted resolve t part member)
      apply ih n
      cases read with
      | node d inside => exact read_deeper n d inside part (part_read d part deeper)
      | untyped quote fault => cases deeper
      | any => cases deeper
      | many =>
          rw [List.mem_singleton.mp deeper]
          exact .any

end TypeExpr

section Statements

variable (resolve : Resolver)

theorem statement_sources_read (s : SourceStatement) :
    ∀ u ∈ s.placeholderSources resolve, TypeExpr.ReadInside s.body u := by
  intro u member
  obtain ⟨t, listed, source⟩ := List.mem_flatMap.mp member
  have keeps := ((TypeExpr.mem_placeholder_sources_iff resolve t u).mp source).1
  cases content : s.content with
  | declaration d =>
      rw [content] at listed
      have read := TypeExpr.declaration_read s.body d content t listed
      exact TypeExpr.source_read resolve s.body t u read keeps
  | _ =>
      rw [content] at listed
      cases listed

theorem statement_sources_warned (s : SourceStatement) :
    ((s.placeholderSources resolve).flatMap TypeExpr.ownDiagnostics).Sublist
      (s.toFlow resolve).diagnostics := by
  have types : s.content.types.Sublist s.content.read := by
    cases s.content with
    | abandoned fault bound read => exact List.nil_sublist _
    | _ => exact List.Sublist.refl _
  have each := List.Sublist.flatMap_right s.content.types fun t _ =>
    TypeExpr.sources_warned resolve t
  have content : ((s.placeholderSources resolve).flatMap TypeExpr.ownDiagnostics).Sublist
      (s.content.toFlow resolve s.node.quote).diagnostics := by
    rw [content_to_flow_diagnostics, SourceStatement.placeholderSources, List.flatMap_assoc]
    exact (each.trans (types.flatMap _)).trans (List.sublist_append_left _ _)
  unfold SourceStatement.toFlow
  exact content.trans (List.sublist_append_left _ _)

end Statements

theorem sources_reported (catalog : Catalog) (name : String) (root : Node) :
    (root.statements.mapIdx fun i s => (s.placeholderSources (resolverAt catalog root i)).flatMap
      TypeExpr.ownDiagnostics).flatten.Sublist (convertFile catalog name root).diagnostics := by
  rw [(convert_file_apart catalog name root).2.2, List.mapIdx_eq_zipIdx_map,
    List.mapIdx_eq_zipIdx_map]
  refine List.Sublist.flatMap_right root.statements.zipIdx fun (s, i) _ => ?_
  have alone : (Session.convertAlone catalog (root.statements.take i) s).2.diagnostics =
      (s.toFlow (resolverAt catalog root i)).diagnostics := Session.convert_diagnostics _ _ s
  dsimp only
  rw [alone]
  exact statement_sources_warned _ s

-- The placeholders among the types of a result and the parts of its statement that they stand for;
-- those that stand for object types have entries.
structure SourceStatement.Logged (s : SourceStatement) (resolve : Resolver)
    (diagnostics : List Diagnostic) (result : Statement) : Prop where
  counted : result.placeholders =
    (if result.isPlaceholder then 1 else 0) + result.placeholderTypes.length
  sources : result.placeholderTypes =
    (s.placeholderSources resolve).map fun u => (u.toFlow resolve).value
  read : ∀ u ∈ s.placeholderSources resolve, TypeExpr.ReadInside s.body u
  entered : ∀ n : Node, n.construct = .typeLiteral → .ofNode n ∈ s.placeholderSources resolve →
    ∃ before m reason, n.FirstOffence before m reason ∧
      ((TypeExpr.ofNode n).toFlow resolve).value =
        .placeholder n.quote ("tsflow-error: " ++ reason) ∧
      n.refusal reason ∈ diagnostics

-- The entries about internal errors are the placeholders that show them, one for one. Each object
-- type that became a placeholder has an entry, and these entries keep the order of the output.
theorem diagnostics_log_failures (catalog : Catalog) (name : String) (root : Node) :
    let converted := convertFile catalog name root
    reportedErrors converted.diagnostics =
        (root.statements.zip converted.file.body).flatMap (fun (s, result) =>
          result.internalErrors s.node.span) ∧
      (∀ (i : Nat) (s : SourceStatement), root.statements[i]? = some s →
        ∃ result, converted.file.body[i]? = some result ∧
          s.Logged (resolverAt catalog root i) converted.diagnostics result) ∧
      (root.statements.mapIdx fun i s =>
        (s.placeholderSources (resolverAt catalog root i)).flatMap
          TypeExpr.ownDiagnostics).flatten.Sublist converted.diagnostics := by
  intro converted
  have entries := sources_reported catalog name root
  refine ⟨Session.convert_all_reported catalog .start root.statements, ?_, entries⟩
  intro i s found
  refine ⟨(s.toFlow (resolverAt catalog root i)).value, ?_, Statement.placeholder_types_length _,
    statement_placeholder_types _ s, statement_sources_read _ s, ?_⟩
  · change (convertFile catalog name root).file.body[i]? = _
    rw [(convert_file_apart catalog name root).1, List.getElem?_mapIdx, found]
    exact congrArg some (Session.convert_value _ _ s)
  · intro n object source
    obtain ⟨t, -, inside⟩ := List.mem_flatMap.mp source
    obtain ⟨before, m, reason, offence, shown, own⟩ := TypeExpr.failed_literal _ n object
      ((TypeExpr.mem_placeholder_sources_iff _ t _).mp inside).2
    refine ⟨before, m, reason, offence, shown, entries.subset ?_⟩
    obtain ⟨bound, rfl⟩ := List.getElem?_eq_some_iff.mp found
    refine List.mem_flatten.mpr ⟨_, List.mem_mapIdx.mpr ⟨i, bound, rfl⟩, ?_⟩
    exact List.mem_flatMap.mpr ⟨_, source, by rw [own]; exact List.mem_singleton_self _⟩

-- The declarations `type A = { m(): void }[];` and `var {c}: d;`, neither of which can be kept.
namespace BrokenPair

def literal : Node :=
  ⟨"object_type", [], true, ⟨9, 22⟩, "\x7b m(): void \x7d", "array_type", [
    ⟨"\x7b", [], false, ⟨9, 10⟩, "\x7b", "object_type", []⟩,
    ⟨"method_signature", [], true, ⟨11, 20⟩, "m(): void", "object_type", [
      ⟨"property_identifier", ["name"], true, ⟨11, 12⟩, "m", "method_signature", []⟩]⟩,
    ⟨"\x7d", [], false, ⟨21, 22⟩, "\x7d", "object_type", []⟩]⟩

def array : Node :=
  ⟨"array_type", ["value"], true, ⟨9, 24⟩, "\x7b m(): void \x7d[]", "type_alias_declaration", [
    literal,
    ⟨"[", [], false, ⟨22, 23⟩, "[", "array_type", []⟩,
    ⟨"]", [], false, ⟨23, 24⟩, "]", "array_type", []⟩]⟩

def pattern : Node :=
  ⟨"object_pattern", ["name"], true, ⟨30, 33⟩, "\x7bc\x7d", "variable_declarator", [
    ⟨"shorthand_property_identifier_pattern", [], true, ⟨31, 32⟩, "c", "object_pattern", []⟩]⟩

def root : Node :=
  ⟨"program", [], true, ⟨0, 37⟩, "", "", [
    ⟨"type_alias_declaration", [], true, ⟨0, 25⟩, "type A = \x7b m(): void \x7d[];", "program", [
      ⟨"type", [], false, ⟨0, 4⟩, "type", "type_alias_declaration", []⟩,
      ⟨"type_identifier", ["name"], true, ⟨5, 6⟩, "A", "type_alias_declaration", []⟩,
      ⟨"=", [], false, ⟨7, 8⟩, "=", "type_alias_declaration", []⟩,
      array,
      ⟨";", [], false, ⟨24, 25⟩, ";", "type_alias_declaration", []⟩]⟩,
    ⟨"variable_declaration", [], true, ⟨26, 37⟩, "var \x7bc\x7d: d;", "program", [
      ⟨"var", [], false, ⟨26, 29⟩, "var", "variable_declaration", []⟩,
      ⟨"variable_declarator", [], true, ⟨30, 36⟩, "\x7bc\x7d: d", "variable_declaration", [pattern]⟩,
      ⟨";", [], false, ⟨36, 37⟩, ";", "variable_declaration", []⟩]⟩]⟩

theorem literal_kept (resolve : Resolver) :
    TypeExpr.Keeps resolve (.ofNode literal) (.ofNode array) := by
  have form : array.construct.typeForm = .array := by decide
  have first : array.firstPart? = some literal := rfl
  have read : TypeExpr.ofNode array = .array (.ofNode literal) := by
    rw [TypeExpr.of_node_eq, form]
    simp only [first]
    rfl
  rw [read]
  exact .inside _ _ (List.mem_singleton_self _) .here

theorem literal_untranslated (resolve : Resolver) :
    (TypeExpr.ofNode literal).Untranslated resolve := by
  refine TypeExpr.faulty_member resolve literal _ (by decide) (List.mem_singleton_self _)
    (.unsupportedMember .methodSignature) ?_
  rw [TypeExpr.member]
  rfl

end BrokenPair

theorem broken_pair_logged :
    let converted := convertFile .empty "a.d.ts" BrokenPair.root
    (BrokenPair.root.statements.zip converted.file.body).flatMap (fun (s, result) =>
        result.internalErrors s.node.span) =
      [("tsflow-error: internal error: unimplemented: variable binding pattern: object_pattern",
        some ⟨26, 37⟩)] ∧
      ∃ reason, ((TypeExpr.ofNode BrokenPair.literal).toFlow
          (resolverAt .empty BrokenPair.root 0)).value =
            .placeholder BrokenPair.literal.quote ("tsflow-error: " ++ reason) ∧
        BrokenPair.literal.refusal reason ∈ converted.diagnostics := by
  intro converted
  obtain ⟨reported, logged, -⟩ := diagnostics_log_failures .empty "a.d.ts" BrokenPair.root
  refine ⟨?_, ?_⟩
  · have entries : converted.diagnostics = [
        ⟨"type literal: unimplemented TypeElement kind: MethodSignature", some ⟨9, 22⟩⟩,
        ⟨"internal error: unimplemented: variable binding pattern: object_pattern",
          some ⟨26, 37⟩⟩] := by decide +kernel
    rw [← reported]
    change reportedErrors converted.diagnostics = _
    rw [entries]
    decide
  · obtain ⟨result, -, shown⟩ := logged 0 _ rfl
    have object : BrokenPair.literal.construct = .typeLiteral := by decide
    have source : TypeExpr.ofNode BrokenPair.literal ∈
        (TypeExpr.ofNode BrokenPair.array).placeholderSources
          (resolverAt .empty BrokenPair.root 0) :=
      (TypeExpr.mem_placeholder_sources_iff _ _ _).mpr
        ⟨BrokenPair.literal_kept _, BrokenPair.literal_untranslated _⟩
    obtain ⟨before, m, reason, -, value, entered⟩ := shown.entered BrokenPair.literal object
      (List.mem_flatMap.mpr ⟨_, List.mem_append_right _ List.mem_cons_self, source⟩)
    exact ⟨reason, value, entered⟩

end FlowDefs
