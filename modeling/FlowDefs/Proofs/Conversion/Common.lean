import FlowDefs.Proofs.Conversion.Origin
import FlowDefs.Proofs.Conversion.Refinement
import FlowDefs.Proofs.Flow.Layout
import FlowDefs.Proofs.TypeScript.Common
set_option autoImplicit false

namespace FlowDefs

open Text

def Converted.Silent {α : Type} (c : Converted α) : Prop := c.imports = [] ∧ c.diagnostics = []

section

variable (resolve : Resolver)

def Param.toFlow (p : Param TypeExpr) : Param FlowType :=
  ⟨p.name, (p.type.toFlow resolve).value, p.optional⟩

namespace TypeExpr

theorem silent_of_parts (t : TypeExpr) (kept : t.substitution? resolve = none)
    (faultless : t.ownDiagnostics = []) (parts : ∀ p ∈ t.parts, (p.toFlow resolve).Silent) :
    (t.toFlow resolve).Silent := by
  obtain ⟨imports, diagnostics⟩ := to_flow_adds resolve t
  have below (p : TypeExpr) (member : p ∈ t.converted resolve) : (p.toFlow resolve).Silent :=
    parts p (converted_part resolve t p member)
  constructor
  · rw [imports, kept, List.flatMap_eq_nil_iff.mpr fun p member => (below p member).1]
    rfl
  · rw [diagnostics, faultless, List.flatMap_eq_nil_iff.mpr fun p member => (below p member).2]
    rfl

theorem to_flow_params_value (params : List (Param TypeExpr)) :
    (toFlowParams resolve params).value = params.map (Param.toFlow resolve) := by
  induction params with
  | nil => rfl
  | cons p params ih =>
      obtain ⟨name, type, optional⟩ := p
      simp [toFlowParams, toFlowParam, Param.toFlow, ih]

theorem function_value (params : List (Param TypeExpr)) (rest : Option (Param TypeExpr))
    (result : TypeExpr) : (toFlow resolve (.function ⟨none, params, rest, result⟩)).value =
      .function ⟨none, params.map (Param.toFlow resolve), rest.map (Param.toFlow resolve),
        (result.toFlow resolve).value⟩ := by
  have final : (toFlowRest resolve rest).value = rest.map (Param.toFlow resolve) := by
    cases rest with
    | none => rfl
    | some p =>
        obtain ⟨name, type, optional⟩ := p
        simp [toFlowRest, toFlowParam, Param.toFlow]
  simp [toFlow, toFlowSignature, toFlowTypeParams, to_flow_params_value, final]

end TypeExpr

namespace FlowType

theorem named_chars (name : QualifiedName) (nonempty : name.segments ≠ []) (types : List FlowType) :
    (named name types).chars = listing ['.'] (name.segments.map String.toList) ++
      if types.isEmpty then [] else '<' :: (listing comma (types.map chars) ++ ['>']) := by
  obtain ⟨segments⟩ := name
  cases segments with
  | nil => exact absurd rfl nonempty
  | cons s ss =>
      rw [named, chars_reference]
      cases types with
      | nil => simp [listing, argumentChars, List.flatMap_map]
      | cons t ts => simp [listing, argumentChars, List.flatMap_map]

end FlowType

namespace Node

structure Verbatim (n : Node) : Prop where
  text : ((TypeExpr.ofNode n).toFlow resolve).value.chars = n.text.toList
  silent : ((TypeExpr.ofNode n).toFlow resolve).Silent

-- As a member of a union: the members that the node stands for, with bars between them.
structure VerbatimMembers (n : Node) : Prop where
  nonempty : n.memberTypes ≠ []
  text : listing bar (n.memberTypes.map fun t => (t.toFlow resolve).value.memberChars) =
    n.text.toList
  silent : ∀ t ∈ n.memberTypes, (t.toFlow resolve).Silent

variable (source : List Char)

theorem texts_verbatim (nodes : List Node) (verbatim : ∀ n ∈ nodes, n.Verbatim resolve) :
    ((nodes.map TypeExpr.ofNode).map fun t => (t.toFlow resolve).value).map FlowType.chars =
      nodes.map fun n => n.text.toList := by
  rw [List.map_map, List.map_map]
  exact List.map_congr_left fun n member => (verbatim n member).text

theorem parts_silent (nodes : List Node) (verbatim : ∀ n ∈ nodes, n.Verbatim resolve) :
    ∀ t ∈ nodes.map TypeExpr.ofNode, (t.toFlow resolve).Silent := by
  intro t member
  obtain ⟨n, listed, rfl⟩ := List.mem_map.mp member
  exact (verbatim n listed).silent

theorem reference_verbatim (n : Node) (quote : Quote) (name : Node) (arguments : List Node)
    (read : TypeExpr.ofNode n = .reference quote name.qualifiedName (arguments.map TypeExpr.ofNode))
    (dotted : DottedName source name) (kept : resolve name.qualifiedName = none)
    (verbatim : ∀ a ∈ arguments, a.Verbatim resolve)
    (text : n.text.toList = name.text.toList ++ if arguments.isEmpty then [] else
      '<' :: (listing comma (arguments.map fun a => a.text.toList) ++ ['>'])) :
    n.Verbatim resolve := by
  obtain ⟨nonempty, segments⟩ := name_text source name dotted
  constructor
  · rw [read, TypeExpr.plain_reference_value resolve quote _ _ kept,
      FlowType.named_chars name.qualifiedName nonempty, texts_verbatim resolve arguments verbatim,
      text]
    simp [qualifiedName, segments]
  · rw [read]
    exact TypeExpr.silent_of_parts resolve _ (by simp [TypeExpr.substitution?, kept]) rfl
      (parts_silent resolve arguments verbatim)

theorem tuple_verbatim (n : Node) (elements : List Node)
    (bracketed : n.Bracketed source "tuple_type" "[" "]" elements)
    (parts : ∀ e ∈ elements, e.IsPart) (verbatim : ∀ e ∈ elements, e.Verbatim resolve) :
    n.Verbatim resolve := by
  have read := tuple_read source n elements bracketed parts
  constructor
  · rw [read, bracketed_text source n _ _ _ elements bracketed, TypeExpr.toFlow,
      TypeExpr.to_flow_all_eq]
    simp only [Converted.value_bind, Converted.value_pure, Converted.each]
    rw [FlowType.chars_tuple, texts_verbatim resolve elements verbatim]
    rfl
  · rw [read]
    exact TypeExpr.silent_of_parts resolve _ rfl rfl (parts_silent resolve elements verbatim)

theorem members_plain (n : Node) (verbatim : n.Verbatim resolve) (single : n.kind ≠ "union_type")
    (plain : ((TypeExpr.ofNode n).toFlow resolve).value.isFunction = false) :
    n.VerbatimMembers resolve := by
  have members : n.memberTypes = [TypeExpr.ofNode n] := by rw [memberTypes, if_neg single]
  refine ⟨by rw [members]; exact List.cons_ne_nil _ _, ?_, ?_⟩
  · rw [members]
    simp [listing, FlowType.memberChars, plain, verbatim.text]
  · rw [members]
    intro t member
    rw [List.mem_singleton.mp member]
    exact verbatim.silent

theorem union_members (n left bar right : Node)
    (written : n.Written source "union_type"
      [.node left, .blank " ", .node bar, .blank " ", .node right])
    (token : bar.IsToken "|")
    (members : n.memberTypes = left.memberTypes ++ [TypeExpr.ofNode right])
    (verbatim : left.VerbatimMembers resolve) (verbatim' : right.Verbatim resolve)
    (plain : ((TypeExpr.ofNode right).toFlow resolve).value.isFunction = false) :
    n.VerbatimMembers resolve := by
  refine ⟨by simp [members], ?_, ?_⟩
  · have before := verbatim.text
    obtain ⟨t, ts, some⟩ := List.exists_cons_of_ne_nil verbatim.nonempty
    rw [some] at before
    rw [members, some, written_text source n _ _ written]
    simp [listing, List.flatMap_map, Slot.chars, token.text, ← before, FlowType.memberChars, plain,
      verbatim'.text, FlowDefs.bar]
  · rw [members]
    intro t member
    rcases List.mem_append.mp member with before | last
    · exact verbatim.silent t before
    · rw [List.mem_singleton.mp last]
      exact verbatim'.silent

theorem union_verbatim (n : Node) (read : TypeExpr.ofNode n = .union n.memberTypes)
    (verbatim : n.VerbatimMembers resolve) : n.Verbatim resolve := by
  constructor
  · rw [read, TypeExpr.toFlow, TypeExpr.to_flow_all_eq, ← verbatim.text]
    simp only [Converted.value_bind, Converted.value_pure, Converted.each]
    obtain ⟨t, ts, some⟩ := List.exists_cons_of_ne_nil verbatim.nonempty
    rw [some, List.map_cons, FlowType.chars_union]
    simp [listing, List.flatMap_map]
  · rw [read]
    exact TypeExpr.silent_of_parts resolve _ rfl rfl verbatim.silent

theorem params_verbatim (params : List (Node × Node))
    (common : ∀ p ∈ params, CommonParam source p.2 p.1)
    (parts : ∀ p ∈ params, p.2.IsPart) (verbatim : ∀ p ∈ params, p.2.Verbatim resolve) :
    ∃ qs : List (Param TypeExpr), (params.map fun p => TypeExpr.param p.1) = qs.map .plain ∧
      (qs.map fun q => FlowType.paramChars (q.toFlow resolve)) =
        (params.map fun p => p.1.text.toList) ∧
      ∀ q ∈ qs, (q.type.toFlow resolve).Silent := by
  induction params with
  | nil => exact ⟨[], rfl, rfl, fun q member => nomatch member⟩
  | cons p params ih =>
      obtain ⟨qs, reads, texts, silent⟩ := ih
        (fun q member => common q (List.mem_cons_of_mem p member))
        (fun q member => parts q (List.mem_cons_of_mem p member))
        (fun q member => verbatim q (List.mem_cons_of_mem p member))
      have first := verbatim p List.mem_cons_self
      obtain ⟨name, optional, read, text⟩ := param_read source p.2 p.1
        (common p List.mem_cons_self) (parts p List.mem_cons_self)
      refine ⟨⟨some name, TypeExpr.ofNode p.2, optional⟩ :: qs, ?_, ?_, ?_⟩
      · rw [List.map_cons, List.map_cons, read, reads]
      · rw [List.map_cons, List.map_cons, texts, text, ← first.text]
        rfl
      · intro q member
        rcases List.mem_cons.mp member with rfl | later
        · exact first.silent
        · exact silent q later

theorem rest_verbatim (rest : Option (Node × Node))
    (common : ∀ p ∈ rest, CommonRest source p.2 p.1) (parts : ∀ p ∈ rest, p.2.IsPart)
    (verbatim : ∀ p ∈ rest, p.2.Verbatim resolve) :
    ∃ o : Option (Param TypeExpr),
      (rest.toList.map fun p => TypeExpr.param p.1) = (o.map .rest).toList ∧
      (o.toList.map fun q => '.' :: '.' :: '.' :: FlowType.paramChars (q.toFlow resolve)) =
        (rest.toList.map fun p => p.1.text.toList) ∧
      ∀ q ∈ o, (q.type.toFlow resolve).Silent := by
  cases rest with
  | none => exact ⟨none, rfl, rfl, fun q member => nomatch member⟩
  | some p =>
      have last := verbatim p rfl
      obtain ⟨name, read, text⟩ := rest_read source p.2 p.1 (common p rfl) (parts p rfl)
      refine ⟨some ⟨some name, TypeExpr.ofNode p.2, false⟩, ?_, ?_, ?_⟩
      · simp [read]
      · simp [text, ← last.text, FlowType.paramChars, FlowType.markChars, Param.toFlow]
      · intro q member
        obtain rfl := Option.mem_some.mp member
        exact last.silent

-- The list of a function type, with a rest parameter at its end or without.
theorem items_verbatim (params : List (Node × Node)) (rest : Option (Node × Node))
    (plain : ∀ p ∈ params, CommonParam source p.2 p.1)
    (final : ∀ p ∈ rest, CommonRest source p.2 p.1)
    (parts : ∀ p ∈ params ++ rest.toList, p.2.IsPart)
    (verbatim : ∀ p ∈ params ++ rest.toList, p.2.Verbatim resolve) :
    ∃ (qs : List (Param TypeExpr)) (o : Option (Param TypeExpr)),
      TypeExpr.splitRest (((params ++ rest.toList).map Prod.fst).map TypeExpr.param) = (qs, o) ∧
      (∀ result : FlowType, (Signature.items ⟨none, qs.map (Param.toFlow resolve),
          o.map (Param.toFlow resolve), result⟩).map FlowType.itemChars =
        ((params ++ rest.toList).map Prod.fst).map fun n => n.text.toList) ∧
      ∀ q ∈ qs ++ o.toList, (q.type.toFlow resolve).Silent := by
  have left (p : Node × Node) (member : p ∈ params) : p ∈ params ++ rest.toList :=
    List.mem_append_left _ member
  have right (p : Node × Node) (member : p ∈ rest) : p ∈ params ++ rest.toList :=
    List.mem_append_right _ (Option.mem_toList.mpr member)
  obtain ⟨qs, reads, texts, silent⟩ := params_verbatim resolve source params plain
    (fun p member => parts p (left p member)) (fun p member => verbatim p (left p member))
  obtain ⟨o, lastRead, lastText, lastSilent⟩ := rest_verbatim resolve source rest final
    (fun p member => parts p (right p member)) (fun p member => verbatim p (right p member))
  refine ⟨qs, o, ?_, ?_, ?_⟩
  · rw [List.map_map, List.map_append]
    rw [show (params.map (TypeExpr.param ∘ Prod.fst)) = _ from reads,
      show (rest.toList.map (TypeExpr.param ∘ Prod.fst)) = _ from lastRead, split_rest_append]
  · intro result
    rw [List.map_map, List.map_append]
    rw [show (params.map ((fun n => n.text.toList) ∘ Prod.fst)) = _ from texts.symm,
      show (rest.toList.map ((fun n => n.text.toList) ∘ Prod.fst)) = _ from lastText.symm]
    cases o <;> simp [Signature.items, FlowType.itemChars]
  · intro q member
    rcases List.mem_append.mp member with positional | last
    · exact silent q positional
    · exact lastSilent q (Option.mem_toList.mp last)

theorem items_are_parts (params : List (Node × Node)) (rest : Option (Node × Node))
    (plain : ∀ p ∈ params, CommonParam source p.2 p.1)
    (final : ∀ p ∈ rest, CommonRest source p.2 p.1) :
    ∀ item ∈ (params ++ rest.toList).map Prod.fst, item.IsPart := by
  intro item member
  obtain ⟨p, listed, rfl⟩ := List.mem_map.mp member
  rcases List.mem_append.mp listed with positional | last
  · exact param_part source p.2 p.1 (plain p positional)
  · exact rest_part source p.2 p.1 (final p (Option.mem_toList.mp last))

theorem function_verbatim (n list arrow result : Node) (params : List (Node × Node))
    (rest : Option (Node × Node))
    (written : n.Written source "function_type"
      [.node list, .blank " ", .node arrow, .blank " ", .node result])
    (listField : list.fields = ["parameters"]) (token : arrow.IsToken "=>")
    (resultField : result.fields = ["return_type"])
    (bracketed : list.Bracketed source "formal_parameters" "(" ")"
      ((params ++ rest.toList).map Prod.fst))
    (plain : ∀ p ∈ params, CommonParam source p.2 p.1)
    (final : ∀ p ∈ rest, CommonRest source p.2 p.1)
    (parts : ∀ p ∈ params ++ rest.toList, p.2.IsPart)
    (verbatim : ∀ p ∈ params ++ rest.toList, p.2.Verbatim resolve)
    (direct : TypeExpr.ofAnnotated result = TypeExpr.ofNode result)
    (resultVerbatim : result.Verbatim resolve) : n.Verbatim resolve := by
  have items := items_are_parts source params rest plain final
  obtain ⟨qs, o, split, texts, silent⟩ :=
    items_verbatim resolve source params rest plain final parts verbatim
  have read : TypeExpr.ofNode n = .function ⟨none, qs, o, TypeExpr.ofNode result⟩ := by
    rw [function_read source n list arrow result _ written listField token resultField bracketed
      items direct, split]
  constructor
  · rw [read, TypeExpr.function_value, FlowType.chars_function, written_text source n _ _ written,
      texts]
    simp [FlowType.typeParamsChars, Slot.chars, token.text, resultVerbatim.text,
      bracketed_text source list _ _ _ _ bracketed]
  · rw [read]
    refine TypeExpr.silent_of_parts resolve _ rfl rfl ?_
    intro t member
    simp only [TypeExpr.parts, Signature.types, typesOfParams, Option.getD_none, List.flatMap_nil,
      List.nil_append, ← List.map_append, List.mem_append (t := [_]), List.mem_map,
      List.mem_singleton] at member
    rcases member with ⟨q, listed, rfl⟩ | rfl
    · exact silent q listed
    · exact resultVerbatim.silent

theorem common_not_function (n : Node)
    (common : CommonType source (fun name => resolve name = none) n)
    (plain : n.kind ≠ "function_type") :
    ((TypeExpr.ofNode n).toFlow resolve).value.isFunction = false := by
  have part (c : Node) (common : CommonType source (fun name => resolve name = none) c) :=
    common_part source _ c common
  cases common with
  | keyword n kind named word =>
      obtain ⟨k, read, -⟩ := keyword_read n kind word
      simp [read, TypeExpr.toFlow, FlowType.isFunction]
  | literal n value written literal =>
      obtain ⟨l, read, -⟩ := literal_read source n value written literal
      simp [read, TypeExpr.toFlow, FlowType.isFunction]
  | name n kind named dotted defined kept =>
      rw [name_read n kind defined, TypeExpr.plain_reference_value resolve _ _ _ kept]
      rfl
  | generic n name list arguments written nameField listField dotted kept bracketed nonempty
      common =>
      rw [generic_read source n name list arguments written nameField listField bracketed
        fun a member => part a (common a member), TypeExpr.plain_reference_value resolve _ _ _ kept]
      rfl
  | tuple n elements bracketed common =>
      rw [tuple_read source n elements bracketed fun e member => part e (common e member)]
      simp [TypeExpr.toFlow, FlowType.isFunction]
  | union n left bar right written token leftCommon rightCommon leftPlain rightPlain nesting =>
      obtain ⟨read, -⟩ := union_read source n left bar right written token (part left leftCommon)
        (part right rightCommon) nesting
      simp [read, TypeExpr.toFlow, FlowType.isFunction]
  | function n list arrow result params rest written => exact absurd written.kind plain

theorem common_verbatim (n : Node)
    (common : CommonType source (fun name => resolve name = none) n) :
    n.Verbatim resolve ∧ (n.kind ≠ "function_type" → n.VerbatimMembers resolve) := by
  have both (n : Node) (common : CommonType source (fun name => resolve name = none) n)
      (single : n.kind ≠ "union_type") (verbatim : n.Verbatim resolve) :
      n.Verbatim resolve ∧ (n.kind ≠ "function_type" → n.VerbatimMembers resolve) :=
    ⟨verbatim, fun plain => members_plain resolve n verbatim single
      (common_not_function resolve source n common plain)⟩
  have part (c : Node) (common : CommonType source (fun name => resolve name = none) c) :=
    common_part source _ c common
  have whole := common
  induction common with
  | keyword n kind named word =>
      refine both n whole (by rw [kind]; decide) ?_
      obtain ⟨k, read, listed⟩ := keyword_read n kind word
      have texts : ∀ entry ∈ commonKeywords, entry.1.toFlow.text = entry.2 := by decide
      constructor
      · simp [read, TypeExpr.toFlow, FlowType.chars_primitive, texts _ listed]
      · rw [read]
        exact TypeExpr.silent_of_parts resolve _ rfl rfl (by simp [TypeExpr.parts])
  | literal n value written literal =>
      refine both n whole (by rw [written.kind]; decide) ?_
      obtain ⟨l, read, text⟩ := literal_read source n value written literal
      constructor
      · simp [read, TypeExpr.toFlow, FlowType.chars_literal, text]
      · rw [read]
        exact TypeExpr.silent_of_parts resolve _ rfl rfl (by simp [TypeExpr.parts])
  | name n kind named dotted defined kept =>
      refine both n whole (by rcases kind with kind | kind <;> rw [kind] <;> decide) ?_
      exact reference_verbatim resolve source n n.quote n [] (name_read n kind defined) dotted kept
        (by simp) (by simp)
  | generic n name list arguments written nameField listField dotted kept bracketed nonempty
      common ih =>
      refine both n whole (by rw [written.kind]; decide) ?_
      refine reference_verbatim resolve source n n.quote name arguments
        (generic_read source n name list arguments written nameField listField bracketed
          fun a member => part a (common a member)) dotted kept
        (fun a member => (ih a member (common a member)).1) ?_
      have filled : arguments.isEmpty = false := by simpa using nonempty
      rw [written_text source n _ _ written, filled]
      simp [Slot.chars, bracketed_text source list _ _ _ _ bracketed]
  | tuple n elements bracketed common ih =>
      have parts (e : Node) (member : e ∈ elements) := part e (common e member)
      have kind : n.kind ≠ "union_type" := by
        obtain ⟨opening, slots, closing, written, -, -, -⟩ := bracketed
        rw [written.kind]
        decide
      exact both n whole kind (tuple_verbatim resolve source n elements bracketed parts
        fun e member => (ih e member (common e member)).1)
  | union n left bar right written token leftCommon rightCommon leftPlain rightPlain nesting ihLeft
      ihRight =>
      obtain ⟨read, members⟩ := union_read source n left bar right written token
        (part left leftCommon) (part right rightCommon) nesting
      have verbatim := union_members resolve source n left bar right written token members
        ((ihLeft leftCommon).2 leftPlain) (ihRight rightCommon).1
        (common_not_function resolve source right rightCommon rightPlain)
      exact ⟨union_verbatim resolve n read verbatim, fun _ => verbatim⟩
  | function n list arrow result params rest written listField token resultField bracketed plain
      final common resultCommon ih ihResult =>
      refine both n whole (by rw [written.kind]; decide) ?_
      exact function_verbatim resolve source n list arrow result params rest written listField token
        resultField bracketed plain final (fun p member => part p.2 (common p member))
        (fun p member => (ih p member (common p member)).1)
        (common_direct source _ result resultCommon) (ihResult resultCommon).1

end Node

end

theorem common_type_copied (catalog : Catalog) (session : Session) (source : List Char) (n : Node)
    (common : n.CommonType source fun name => catalog.resolve session.bindings name = none) :
    (session.convertType catalog (TypeExpr.ofNode n)).1.print = n.text ∧
      (session.convertType catalog (TypeExpr.ofNode n)).2 = session := by
  obtain ⟨text, imports, diagnostics⟩ :=
    (Node.common_verbatim (catalog.resolve session.bindings) source n common).1
  rw [Session.convert_type_eq]
  refine ⟨String.toList_inj.mp text, ?_⟩
  simp [Session.absorb, imports, diagnostics, Session.addImports]

-- The tree of a function type with an optional parameter and a union for its result.
namespace FunctionOfUnion

def source : String := "(a?: B<-1>) => void | null"

def node (kind : String) (fields : List String) (start stop : Nat) (text : String)
    (children : List Node) : Node :=
  ⟨kind, fields, true, ⟨start, stop⟩, text, "", children⟩

def token (spelling : String) (start stop : Nat) : Node :=
  ⟨spelling, [], false, ⟨start, stop⟩, spelling, "", []⟩

def minus : Node := { token "-" 7 8 with fields := ["operator"] }

def one : Node := node "number" ["argument"] 8 9 "1" []

def signed : Node := node "unary_expression" [] 7 9 "-1" [minus, one]

def argument : Node := node "literal_type" [] 7 9 "-1" [signed]

def arguments : Node :=
  node "type_arguments" ["type_arguments"] 6 10 "<-1>" [token "<" 6 7, argument, token ">" 9 10]

def name : Node := node "type_identifier" ["name"] 5 6 "B" []

def generic : Node := node "generic_type" [] 5 10 "B<-1>" [name, arguments]

def annotation : Node := node "type_annotation" ["type"] 3 10 ": B<-1>" [token ":" 3 4, generic]

def pattern : Node := node "identifier" ["pattern"] 1 2 "a" []

def param : Node :=
  node "optional_parameter" [] 1 10 "a?: B<-1>" [pattern, token "?" 2 3, annotation]

def params : Node :=
  node "formal_parameters" ["parameters"] 0 11 "(a?: B<-1>)" [token "(" 0 1, param, token ")" 10 11]

def void : Node := node "predefined_type" [] 15 19 "void" []

def null : Node := node "literal_type" [] 22 26 "null" [node "null" [] 22 26 "null" []]

def result : Node :=
  node "union_type" ["return_type"] 15 26 "void | null" [void, token "|" 20 21, null]

def type : Node := node "function_type" [] 0 26 source [params, token "=>" 12 14, result]

theorem is_token (spelling : String) (start stop : Nat) :
    (token spelling start stop).IsToken spelling :=
  ⟨rfl, rfl, rfl, rfl⟩

theorem argument_common (free : QualifiedName → Prop) : argument.CommonType source.toList free := by
  refine .literal argument signed ⟨rfl, rfl, by decide +kernel, rfl, ?_⟩
    (.negative signed minus one ⟨rfl, rfl, by decide +kernel, rfl, ?_⟩ rfl rfl rfl rfl
      ⟨rfl, rfl, rfl, by decide +kernel, by decide +kernel⟩)
  · exact .node signed _ _ (by decide +kernel) (.done _)
  · exact .node minus _ _ (by decide +kernel) (.node one _ _ (by decide +kernel) (.done _))

theorem generic_common (free : QualifiedName → Prop) (kept : free (.bare "B")) :
    generic.CommonType source.toList free := by
  refine .generic generic name arguments [argument] ⟨rfl, rfl, by decide +kernel, rfl, ?_⟩ rfl rfl
    (.word name rfl) ?_ ?_ (List.cons_ne_nil _ _) (by simpa using argument_common free)
  · exact .node name _ _ (by decide +kernel) (.node arguments _ _ (by decide +kernel) (.done _))
  · have bare : name.qualifiedName = .bare "B" := by
      simp [Node.qualifiedName, Node.name_segments_eq, name, node, Node.isDotted,
        QualifiedName.bare]
    rw [bare]
    exact kept
  · exact ⟨token "<" 6 7, _, token ">" 9 10, ⟨rfl, rfl, by decide +kernel, rfl,
      .node (token "<" 6 7) _ _ (by decide +kernel) (.node argument _ _ (by decide +kernel)
        (.node (token ">" 9 10) _ _ (by decide +kernel) (.done _)))⟩, is_token _ _ _, .one argument,
      is_token _ _ _⟩

theorem result_common (free : QualifiedName → Prop) : result.CommonType source.toList free := by
  refine .union result void (token "|" 20 21) null ⟨rfl, rfl, by decide +kernel, rfl, ?_⟩
    (is_token _ _ _) (.keyword void rfl rfl (by decide)) ?_ (by decide) (by decide) (by decide)
  · exact .node void _ _ (by decide +kernel) (.blank " " _ 19 20 _ (by decide +kernel)
      (.node (token "|" 20 21) _ _ (by decide +kernel) (.blank " " _ 21 22 _ (by decide +kernel)
        (.node null _ _ (by decide +kernel) (.done _)))))
  · refine .literal null _ ⟨rfl, rfl, by decide +kernel, rfl, ?_⟩ (.word _ (.inl rfl) rfl rfl)
    exact .node (node "null" [] 22 26 "null" []) _ _ (by decide +kernel) (.done _)

theorem type_common (free : QualifiedName → Prop) (kept : free (.bare "B")) :
    type.CommonType source.toList free := by
  refine .function type params (token "=>" 12 14) result [(param, generic)] none
    ⟨rfl, rfl, by decide +kernel, rfl, ?_⟩ rfl (is_token _ _ _) rfl ?_ ?_ (by simp)
    (by simpa using generic_common free kept) (result_common free)
  · exact .node params _ _ (by decide +kernel) (.blank " " _ 11 12 _ (by decide +kernel)
      (.node (token "=>" 12 14) _ _ (by decide +kernel) (.blank " " _ 14 15 _ (by decide +kernel)
        (.node result _ _ (by decide +kernel) (.done _)))))
  · exact ⟨token "(" 0 1, _, token ")" 10 11, ⟨rfl, rfl, by decide +kernel, rfl,
      .node (token "(" 0 1) _ _ (by decide +kernel) (.node param _ _ (by decide +kernel)
        (.node (token ")" 10 11) _ _ (by decide +kernel) (.done _)))⟩, is_token _ _ _, .one param,
      is_token _ _ _⟩
  · simp only [List.mem_singleton, forall_eq]
    refine .optional param pattern (token "?" 2 3) annotation (token ":" 3 4)
      ⟨rfl, rfl, by decide +kernel, rfl, ?_⟩ rfl rfl (is_token _ _ _)
      ⟨⟨rfl, rfl, by decide +kernel, rfl, ?_⟩, is_token _ _ _, rfl⟩
    · exact .node pattern _ _ (by decide +kernel) (.node (token "?" 2 3) _ _ (by decide +kernel)
        (.node annotation _ _ (by decide +kernel) (.done _)))
    · exact .node (token ":" 3 4) _ _ (by decide +kernel) (.blank " " _ 4 5 _ (by decide +kernel)
        (.node generic _ _ (by decide +kernel) (.done _)))

end FunctionOfUnion

theorem function_of_union_copied : (Session.start.convertType .empty
      (TypeExpr.ofNode FunctionOfUnion.type)).1.print = "(a?: B<-1>) => void | null" ∧
    (Session.start.convertType .empty (TypeExpr.ofNode FunctionOfUnion.type)).2 = Session.start :=
  common_type_copied .empty .start FunctionOfUnion.source.toList FunctionOfUnion.type
    (FunctionOfUnion.type_common _ rfl)

end FlowDefs
