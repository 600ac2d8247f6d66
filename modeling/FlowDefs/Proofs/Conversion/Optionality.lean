import FlowDefs.Library.Builtin
import FlowDefs.Proofs.Conversion.Common
import FlowDefs.Proofs.Conversion.Completeness
import FlowDefs.Proofs.Flow.Optionality
set_option autoImplicit false

namespace FlowDefs

namespace Node

def takesRest (n : Node) : Bool := (n.field? "pattern").any fun p => p.kind = "rest_pattern"

def positionalParams (n : Node) : List Node :=
  (((n.field? "parameters").map parts).getD []).takeWhile fun c => !c.takesRest

def flowSignature (catalog : Catalog) (session : Session) (n : Node) : Signature FlowType :=
  ((TypeExpr.convertSignature catalog (TypeExpr.signature n)).run session).1

theorem flow_signature_eq (catalog : Catalog) (session : Session) (n : Node) :
    n.flowSignature catalog session = (TypeExpr.toFlowSignature
      (catalog.resolve session.bindings) (TypeExpr.signature n)).value :=
  congrArg Prod.fst (TypeExpr.convert_signature_adds catalog (TypeExpr.signature n) session)

end Node

-- The parameter has the name that the node binds, if it binds one, and the node's flag.
structure Param.DeclaredBy {τ : Type} (p : Param τ) (n : Node) : Prop where
  name : p.name = (n.field? "pattern").bind Node.boundName?
  optional : p.optional = true ↔ n.kind = "optional_parameter"

namespace TypeExpr

theorem param_rest (n : Node) (rest : n.takesRest = true) : ∃ p, param n = .rest p := by
  obtain ⟨pattern, found, kind⟩ := (Option.any_eq_true ..).mp rest
  rw [param, found]
  exact ⟨_, if_pos (of_decide_eq_true kind)⟩

theorem param_positional (n : Node) (positional : n.takesRest = false) :
    ∃ p, param n = .plain p ∧ p.DeclaredBy n := by
  rw [Node.takesRest] at positional
  rw [param]
  cases found : n.field? "pattern" with
  | none => exact ⟨_, rfl, by rw [found]; rfl, decide_eq_true_iff⟩
  | some pattern =>
      rw [found] at positional
      have kind : pattern.kind ≠ "rest_pattern" := of_decide_eq_false positional
      exact ⟨_, if_neg kind, by rw [found]; rfl, decide_eq_true_iff⟩

theorem positional_declared (nodes : List Node) :
    List.Forall₂ Param.DeclaredBy (splitRest (nodes.map param)).1
      (nodes.takeWhile fun n => !n.takesRest) := by
  induction nodes with
  | nil => exact .nil
  | cons n nodes ih =>
      cases rest : n.takesRest with
      | true =>
          obtain ⟨p, read⟩ := param_rest n rest
          rw [List.map_cons, read, List.takeWhile_cons_of_neg (by simp [rest])]
          exact .nil
      | false =>
          obtain ⟨p, read, declared⟩ := param_positional n rest
          rw [List.map_cons, read, List.takeWhile_cons_of_pos (by simp [rest])]
          exact .cons declared ih

theorem to_flow_signature_params (resolve : Resolver) (s : Signature TypeExpr) :
    (toFlowSignature resolve s).value.params = s.params.map (Param.toFlow resolve) := by
  obtain ⟨typeParams, params, rest, result⟩ := s
  exact to_flow_params_value resolve params

end TypeExpr

theorem flow_params_declared (catalog : Catalog) (session : Session) (n : Node) :
    List.Forall₂ Param.DeclaredBy (n.flowSignature catalog session).params n.positionalParams := by
  have read : List.Forall₂ Param.DeclaredBy (TypeExpr.signature n).params n.positionalParams := by
    rw [TypeExpr.signature, TypeExpr.params_eq, Node.positionalParams]
    cases n.field? "parameters" with
    | none => exact .nil
    | some list => exact TypeExpr.positional_declared list.parts
  rw [Node.flow_signature_eq, TypeExpr.to_flow_signature_params, List.forall₂_map_left_iff]
  exact read.imp fun p c declared => ⟨declared.name, declared.optional⟩

theorem flow_rest_required (catalog : Catalog) (session : Session) (n : Node) :
    ∀ p ∈ (n.flowSignature catalog session).rest, p.optional = false := by
  rw [Node.flow_signature_eq]
  exact TypeExpr.signature_value_rest _ _ (TypeExpr.signature_rest_required n)

theorem rest_agree (o o' : Option (Param FlowType)) (required : ∀ p ∈ o, p.optional = false)
    (required' : ∀ q ∈ o', q.optional = false)
    (alike : o.map Param.required = o'.map Param.required) : o = o' := by
  have kept (o : Option (Param FlowType)) (required : ∀ p ∈ o, p.optional = false) :
      o.map Param.required = o := by
    cases o with
    | none => rfl
    | some p =>
        obtain ⟨name, type, optional⟩ := p
        cases required _ rfl
        rfl
  rw [← kept o required, alike, kept o' required']

-- The texts of two converted signatures that differ in flags alone differ exactly where a parameter
-- with a name has another flag, and the flags are those of the source.
theorem optional_marks_shown (catalog catalog' : Catalog) (session session' : Session)
    (n m : Node) (alike : (n.flowSignature catalog session).required =
      (m.flowSignature catalog' session').required) :
    let s := n.flowSignature catalog session
    let t := m.flowSignature catalog' session'
    let unseen := ∀ p q : Param FlowType,
      (p, q) ∈ s.params.zip t.params → p.optional ≠ q.optional → p.name = none
    ((FlowType.function s).print = (FlowType.function t).print ↔ unseen) ∧
      (∀ (id : String) (position : ExportPosition),
        (Declaration.function id s).print position = (Declaration.function id t).print position ↔
          unseen) ∧
      List.Forall₂ Param.DeclaredBy s.params n.positionalParams ∧
      List.Forall₂ Param.DeclaredBy t.params m.positionalParams := by
  have rest := rest_agree _ _ (flow_rest_required catalog session n)
    (flow_rest_required catalog' session' m) (congrArg Signature.rest alike)
  have agree := marks_agree_iff _ _ alike rest
  refine ⟨?_, fun id position => ?_, flow_params_declared catalog session n,
    flow_params_declared catalog' session' m⟩
  · rw [← agree]
    exact FlowType.signature_told_by_marks " => " _ _ alike
  · rw [← agree]
    exact function_told_by_marks id position _ _ alike

-- The declaration `function f(a: any): any;`, with the name or with a pattern, optional or not.
namespace OneParameter

def any (start : Nat) : Node :=
  ⟨"predefined_type", [], true, ⟨start, start + 3⟩, "any", "type_annotation", []⟩

def annotated (field : String) (start : Nat) : Node :=
  ⟨"type_annotation", [field], true, ⟨start, start + 5⟩, ": any", "", [
    ⟨":", [], false, ⟨start, start + 1⟩, ":", "type_annotation", []⟩, any (start + 2)]⟩

def name : Node := ⟨"identifier", ["pattern"], true, ⟨11, 12⟩, "a", "", []⟩

def pattern : Node := ⟨"array_pattern", ["pattern"], true, ⟨11, 14⟩, "[a]", "", []⟩

def param (bound : Node) (optional : Bool) : Node :=
  let stop := bound.span.stop
  if optional then
    ⟨"optional_parameter", [], true, ⟨11, stop + 6⟩, bound.text ++ "?: any", "formal_parameters",
      [bound, ⟨"?", [], false, ⟨stop, stop + 1⟩, "?", "optional_parameter", []⟩,
        annotated "type" (stop + 1)]⟩
  else
    ⟨"required_parameter", [], true, ⟨11, stop + 5⟩, bound.text ++ ": any", "formal_parameters",
      [bound, annotated "type" stop]⟩

def declaration (bound : Node) (optional : Bool) : Node :=
  let only := param bound optional
  let stop := only.span.stop + 1
  let text := "function f(" ++ only.text ++ "): any;"
  ⟨"function_signature", [], true, ⟨0, stop + 6⟩, text, "program", [
    ⟨"function", [], false, ⟨0, 8⟩, "function", "function_signature", []⟩,
    ⟨"identifier", ["name"], true, ⟨9, 10⟩, "f", "function_signature", []⟩,
    ⟨"formal_parameters", ["parameters"], true, ⟨10, stop⟩, "(" ++ only.text ++ ")",
      "function_signature", [⟨"(", [], false, ⟨10, 11⟩, "(", "formal_parameters", []⟩, only,
        ⟨")", [], false, ⟨stop - 1, stop⟩, ")", "formal_parameters", []⟩]⟩,
    annotated "return_type" stop,
    ⟨";", [], false, ⟨stop + 5, stop + 6⟩, ";", "function_signature", []⟩]⟩

theorem annotated_read (field : String) (start : Nat) :
    TypeExpr.ofAnnotated (annotated field start) = .keyword .any := by
  have annotates : (annotated field start).isAnnotating = true := rfl
  have first : (annotated field start).firstPart? = some (any (start + 2)) := rfl
  have word : (any (start + 2)).construct = .anyKeyword := rfl
  rw [TypeExpr.of_annotated_eq, if_pos annotates, first, Option.map_some, Option.getD_some,
    TypeExpr.of_node_eq, word]
  rfl

theorem param_read (bound : Node) (choice : bound = name ∨ bound = pattern) (optional : Bool) :
    TypeExpr.param (param bound optional) = .plain ⟨bound.boundName?, .keyword .any, optional⟩ := by
  have typed : ∃ start, (param bound optional).field? "type" = some (annotated "type" start) := by
    rcases choice with rfl | rfl <;> cases optional <;> exact ⟨_, rfl⟩
  obtain ⟨start, typed⟩ := typed
  have binds : (param bound optional).field? "pattern" = some bound := by
    rcases choice with rfl | rfl <;> cases optional <;> rfl
  rw [TypeExpr.param, TypeExpr.annotated_eq, typed, binds]
  rcases choice with rfl | rfl <;> cases optional <;> simp [annotated_read] <;> rfl

theorem signature_value (catalog : Catalog) (session : Session) (bound : Node)
    (choice : bound = name ∨ bound = pattern) (optional : Bool) :
    (declaration bound optional).flowSignature catalog session =
      ⟨none, [⟨bound.boundName?, .primitive .any, optional⟩], none, .primitive .any⟩ := by
  have typeParams : TypeExpr.typeParams (declaration bound optional) = none := by
    rw [TypeExpr.type_params_eq]
    rfl
  have listed : ((declaration bound optional).field? "parameters").map Node.parts =
      some [param bound optional] := by
    rcases choice with rfl | rfl <;> cases optional <;> rfl
  have params : TypeExpr.params (declaration bound optional) =
      [.plain ⟨bound.boundName?, .keyword .any, optional⟩] := by
    rw [TypeExpr.params_eq, ← param_read bound choice optional]
    obtain ⟨list, found, parts⟩ := Option.map_eq_some_iff.mp listed
    rw [found, Option.map_some, Option.getD_some, parts, List.map_singleton]
  have result : TypeExpr.annotated (declaration bound optional) "return_type" =
      some (.keyword .any) := by
    obtain ⟨start, typed⟩ : ∃ start, (declaration bound optional).field? "return_type" =
        some (annotated "return_type" start) := ⟨_, rfl⟩
    rw [TypeExpr.annotated_eq, typed, Option.map_some, annotated_read]
  rw [Node.flow_signature_eq, TypeExpr.signature, typeParams, params, result]
  rfl

end OneParameter

theorem name_mark_shown :
    let signature := fun optional =>
      (OneParameter.declaration OneParameter.name optional).flowSignature .builtin .start
    (signature true).required = (signature false).required ∧
      (FlowType.function (signature true)).print ≠ (FlowType.function (signature false)).print := by
  have value := OneParameter.signature_value .builtin .start OneParameter.name (.inl rfl)
  intro signature
  have alike : (signature true).required = (signature false).required := by
    simp only [signature, value]
    rfl
  obtain ⟨shown, -⟩ := optional_marks_shown _ _ _ _ _ _ alike
  refine ⟨alike, fun same => ?_⟩
  have pair : (⟨some "a", .primitive .any, true⟩, ⟨some "a", .primitive .any, false⟩) ∈
      (signature true).params.zip (signature false).params := by
    simp only [signature, value]
    exact List.mem_cons_self
  cases shown.mp same _ _ pair (by simp)

theorem pattern_mark_lost :
    let signature := fun optional =>
      (OneParameter.declaration OneParameter.pattern optional).flowSignature .builtin .start
    (signature true).required = (signature false).required ∧ signature true ≠ signature false ∧
      (FlowType.function (signature true)).print = (FlowType.function (signature false)).print ∧
      (Declaration.function "f" (signature true)).print .none =
        (Declaration.function "f" (signature false)).print .none := by
  have value := OneParameter.signature_value .builtin .start OneParameter.pattern (.inr rfl)
  simp only [value]
  exact ⟨rfl, by simp, rfl, rfl⟩

end FlowDefs
