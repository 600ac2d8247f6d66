import FlowDefs.Proofs.Syntax.Written
import FlowDefs.Proofs.TypeScript.Reading
set_option autoImplicit false

namespace FlowDefs

open Text

def commonKeywords : List (Keyword × String) := [
  (.any, "any"),
  (.void, "void"),
  (.boolean, "boolean"),
  (.number, "number"),
  (.string, "string")]

namespace Node

inductive DottedName (source : List Char) : Node → Prop where
  | word (n : Node) (plain : n.isDotted = false) : DottedName source n
  | dotted (n left dot right : Node) (nested : n.isDotted = true)
      (written : n.Written source n.kind [.node left, .node dot, .node right])
      (token : dot.IsToken ".") (begins : DottedName source left) (plain : right.isDotted = false)
      (leftPart : left.IsPart) (rightPart : right.IsPart) : DottedName source n

-- A whole number with the suffix n is no number in either language.
structure IsNumber (n : Node) : Prop where
  kind : n.kind = "number"
  named : n.named = true
  children : n.children = []
  bounded : n.text.toList.getLast? ≠ some 'n'
  parsable : (Number.readLiteral n.text).isSome = true

inductive CommonLiteral (source : List Char) : Node → Prop where
  | word (n : Node) (kind : n.kind = "null" ∨ n.kind = "true" ∨ n.kind = "false")
      (named : n.named = true) (spelled : n.text = n.kind) : CommonLiteral source n
  | string (n : Node) (kind : n.kind = "string") (named : n.named = true)
      (decodable : (decodeString n.text).isSome = true) : CommonLiteral source n
  | number (n : Node) (number : n.IsNumber) : CommonLiteral source n
  | negative (n minus digits : Node)
      (written : n.Written source "unary_expression" [.node minus, .node digits])
      (sign : minus.text = "-") (unnamed : minus.named = false)
      (operator : minus.fields = ["operator"]) (argument : digits.fields = ["argument"])
      (number : digits.IsNumber) : CommonLiteral source n

structure Annotation (source : List Char) (n colon type : Node) : Prop where
  written : n.Written source "type_annotation" [.node colon, .blank " ", .node type]
  colon : colon.IsToken ":"
  field : n.fields = ["type"]

inductive CommonParam (source : List Char) (type : Node) : Node → Prop where
  | required (n name annotation colon : Node)
      (written : n.Written source "required_parameter" [.node name, .node annotation])
      (identifier : name.kind = "identifier") (pattern : name.fields = ["pattern"])
      (annotated : Annotation source annotation colon type) : CommonParam source type n
  | optional (n name question annotation colon : Node)
      (written : n.Written source "optional_parameter"
        [.node name, .node question, .node annotation])
      (identifier : name.kind = "identifier") (pattern : name.fields = ["pattern"])
      (token : question.IsToken "?") (annotated : Annotation source annotation colon type) :
      CommonParam source type n

inductive CommonRest (source : List Char) (type : Node) : Node → Prop where
  | rest (n pattern dots name annotation colon : Node)
      (written : n.Written source "required_parameter" [.node pattern, .node annotation])
      (inner : pattern.Written source "rest_pattern" [.node dots, .node name])
      (field : pattern.fields = ["pattern"]) (token : dots.IsToken "...")
      (identifier : name.kind = "identifier") (named : name.named = true)
      (annotated : Annotation source annotation colon type) : CommonRest source type n

-- The pairs of a signature are its parameters with the nodes of their types.
inductive CommonType (source : List Char) (free : QualifiedName → Prop) : Node → Prop where
  | keyword (n : Node) (kind : n.kind = "predefined_type") (named : n.named = true)
      (word : n.text ∈ commonKeywords.map Prod.snd) : CommonType source free n
  | literal (n value : Node) (written : n.Written source "literal_type" [.node value])
      (literal : CommonLiteral source value) : CommonType source free n
  | name (n : Node) (kind : n.kind = "type_identifier" ∨ n.kind = "nested_type_identifier")
      (named : n.named = true) (dotted : DottedName source n) (defined : n.text ≠ "undefined")
      (kept : free n.qualifiedName) : CommonType source free n
  | generic (n name list : Node) (arguments : List Node)
      (written : n.Written source "generic_type" [.node name, .node list])
      (nameField : name.fields = ["name"]) (listField : list.fields = ["type_arguments"])
      (dotted : DottedName source name) (kept : free name.qualifiedName)
      (bracketed : list.Bracketed source "type_arguments" "<" ">" arguments)
      (nonempty : arguments ≠ []) (common : ∀ a ∈ arguments, CommonType source free a) :
      CommonType source free n
  | tuple (n : Node) (elements : List Node)
      (bracketed : n.Bracketed source "tuple_type" "[" "]" elements)
      (common : ∀ e ∈ elements, CommonType source free e) : CommonType source free n
  | union (n left bar right : Node)
      (written : n.Written source "union_type"
        [.node left, .blank " ", .node bar, .blank " ", .node right])
      (token : bar.IsToken "|") (leftCommon : CommonType source free left)
      (rightCommon : CommonType source free right) (leftPlain : left.kind ≠ "function_type")
      (rightPlain : right.kind ≠ "function_type") (nesting : right.kind ≠ "union_type") :
      CommonType source free n
  | function (n list arrow result : Node) (params : List (Node × Node))
      (rest : Option (Node × Node))
      (written : n.Written source "function_type"
        [.node list, .blank " ", .node arrow, .blank " ", .node result])
      (listField : list.fields = ["parameters"]) (token : arrow.IsToken "=>")
      (resultField : result.fields = ["return_type"])
      (bracketed : list.Bracketed source "formal_parameters" "(" ")"
        ((params ++ rest.toList).map Prod.fst))
      (plain : ∀ p ∈ params, CommonParam source p.2 p.1)
      (final : ∀ p ∈ rest, CommonRest source p.2 p.1)
      (common : ∀ p ∈ params ++ rest.toList, CommonType source free p.2)
      (resultCommon : CommonType source free result) : CommonType source free n

section

variable (source : List Char)

def commonKinds : List String := ["predefined_type", "literal_type", "type_identifier",
  "nested_type_identifier", "generic_type", "tuple_type", "union_type", "function_type"]

theorem common_node (free : QualifiedName → Prop) (n : Node) (common : CommonType source free n) :
    n.named = true ∧ n.kind ∈ commonKinds := by
  cases common with
  | keyword n kind named word => exact ⟨named, by rw [kind]; decide⟩
  | literal n value written literal => exact ⟨written.named, by rw [written.kind]; decide⟩
  | name n kind named dotted defined kept =>
      refine ⟨named, ?_⟩
      rcases kind with kind | kind <;> rw [kind] <;> decide
  | generic n name list arguments written => exact ⟨written.named, by rw [written.kind]; decide⟩
  | tuple n elements bracketed common =>
      obtain ⟨opening, slots, closing, written, -, -, -⟩ := bracketed
      exact ⟨written.named, by rw [written.kind]; decide⟩
  | union n left bar right written => exact ⟨written.named, by rw [written.kind]; decide⟩
  | function n list arrow result params rest written =>
      exact ⟨written.named, by rw [written.kind]; decide⟩

theorem common_part (free : QualifiedName → Prop) (n : Node) (common : CommonType source free n) :
    n.IsPart := by
  obtain ⟨named, kind⟩ := common_node source free n common
  refine ⟨named, fun comment => ?_⟩
  rw [comment] at kind
  exact absurd kind (by decide)

theorem common_direct (free : QualifiedName → Prop) (n : Node) (common : CommonType source free n) :
    TypeExpr.ofAnnotated n = TypeExpr.ofNode n := by
  obtain ⟨-, kind⟩ := common_node source free n common
  have direct : n.isAnnotating = false := by
    have all : ∀ k ∈ commonKinds, ["type_annotation", "type_predicate_annotation",
        "asserts_annotation", "opting_type_annotation",
        "omitting_type_annotation"].contains k = false := by decide
    exact all n.kind kind
  rw [TypeExpr.of_annotated_eq, direct]
  rfl

theorem param_part (type n : Node) (common : CommonParam source type n) : n.IsPart := by
  cases common with
  | required name annotation colon written =>
      exact ⟨written.named, by rw [written.kind]; decide⟩
  | optional name question annotation colon written =>
      exact ⟨written.named, by rw [written.kind]; decide⟩

theorem rest_part (type n : Node) (common : CommonRest source type n) : n.IsPart := by
  cases common with
  | rest pattern dots name annotation colon written =>
      exact ⟨written.named, by rw [written.kind]; decide⟩

theorem keyword_read (n : Node) (kind : n.kind = "predefined_type")
    (word : n.text ∈ commonKeywords.map Prod.snd) :
    ∃ k : Keyword, TypeExpr.ofNode n = .keyword k ∧ (k, n.text) ∈ commonKeywords := by
  have keywords : n.construct = (Construct.keywords.lookup n.text).getD .unknown := by
    simp [construct, Construct.ofNode, kind]
  have forms : ∀ entry ∈ commonKeywords,
      ((Construct.keywords.lookup entry.2).getD .unknown).typeForm = .keyword entry.1 := by decide
  obtain ⟨⟨k, text⟩, listed, same⟩ := List.mem_map.mp word
  have form := forms _ listed
  rw [show text = n.text from same, ← keywords] at form
  refine ⟨k, ?_, same ▸ listed⟩
  rw [TypeExpr.of_node_eq, form]

theorem number_construct (n : Node) (number : n.IsNumber) : n.construct = .numericLiteral := by
  simp [construct, Construct.ofNode, number.kind, number.bounded]

theorem digits_read (type : Node) (digits : String) (signed : Option String)
    (parsable : (Number.readLiteral digits).isSome = true) :
    ∃ l : Literal, TypeExpr.ofDigits type digits signed = .literal l ∧
      l.text = signed.getD digits := by
  obtain ⟨value, read⟩ := Option.isSome_iff_exists.mp parsable
  cases signed with
  | none => exact ⟨.number value digits, by simp [TypeExpr.ofDigits, read], rfl⟩
  | some raw => exact ⟨.number value.neg raw, by simp [TypeExpr.ofDigits, read], rfl⟩

theorem literal_value_read (type value : Node) (literal : CommonLiteral source value)
    (first : type.firstPart? = some value) :
    ∃ l : Literal, TypeExpr.ofLiteral type = .literal l ∧ l.text = value.text := by
  rw [TypeExpr.ofLiteral, first]
  cases literal with
  | word kind named spelled =>
      rcases kind with kind | kind | kind
      · have construct := construct_of_kind value "null" .nullKeyword kind (by decide) (by decide)
        exact ⟨.null, by simp [construct], by rw [spelled, kind]; rfl⟩
      · have construct := construct_of_kind value "true" .trueKeyword kind (by decide) (by decide)
        exact ⟨.boolean true "true", by simp [construct], by rw [spelled, kind]; rfl⟩
      · have construct := construct_of_kind value "false" .falseKeyword kind (by decide) (by decide)
        exact ⟨.boolean false "false", by simp [construct], by rw [spelled, kind]; rfl⟩
  | string kind named decodable =>
      have construct := construct_of_kind value "string" .stringLiteral kind (by decide) (by decide)
      obtain ⟨content, decoded⟩ := Option.isSome_iff_exists.mp decodable
      exact ⟨.string content value.text, by simp [construct, decoded], rfl⟩
  | number number =>
      have read := digits_read type value.text none number.parsable
      have childless : value.firstPart? = none := by simp [firstPart?, parts, number.children]
      simpa [number_construct value number, TypeExpr.ofNumeric, childless] using read
  | negative minus digits written sign unnamed operator argument number =>
      have construct := construct_of_kind value "unary_expression" .prefixUnaryExpression
        written.kind (by decide) (by decide)
      have signed : value.field? "operator" = some minus := by
        simp [field?, written.children, Slot.node?, operator]
      have digitsField : value.field? "argument" = some digits := by
        simp [field?, written.children, Slot.node?, operator, argument]
      have read := digits_read type digits.text (some value.text) number.parsable
      simpa [construct, TypeExpr.ofSigned, signed, digitsField, sign,
        number_construct digits number] using read

theorem literal_named (value : Node) (literal : CommonLiteral source value) :
    value.IsPart ∧ value.kind ≠ "undefined" := by
  cases literal with
  | word kind named spelled =>
      rcases kind with kind | kind | kind <;>
        exact ⟨⟨named, by rw [kind]; decide⟩, by rw [kind]; decide⟩
  | string kind named decodable => exact ⟨⟨named, by rw [kind]; decide⟩, by rw [kind]; decide⟩
  | number number =>
      exact ⟨⟨number.named, by rw [number.kind]; decide⟩, by rw [number.kind]; decide⟩
  | negative minus digits written =>
      exact ⟨⟨written.named, by rw [written.kind]; decide⟩, by rw [written.kind]; decide⟩

theorem literal_read (n value : Node) (written : n.Written source "literal_type" [.node value])
    (literal : CommonLiteral source value) :
    ∃ l : Literal, TypeExpr.ofNode n = .literal l ∧ l.text = n.text := by
  obtain ⟨part, defined⟩ := literal_named source value literal
  have first := only_part n value written.children part
  have construct : n.construct = .literalType := by
    simp [construct, Construct.ofNode, written.kind, childOfKind?, written.children, Slot.node?,
      defined]
  have text : n.text = value.text := by
    rw [← String.toList_inj, written_text source n _ _ written]
    simp [Slot.chars]
  rw [TypeExpr.of_node_eq, construct, text]
  exact literal_value_read source n value literal first

theorem name_text (n : Node) (dotted : DottedName source n) : n.nameSegments ≠ [] ∧
    listing ['.'] (n.nameSegments.map String.toList) = n.text.toList := by
  induction dotted with
  | word n plain =>
      rw [name_segments_eq, plain]
      simp [listing]
  | dotted n left dot right nested written token begins plain leftPart rightPart ih =>
      have parts := parts_around n left dot right "." written.children token leftPart rightPart
      have last : right.nameSegments = [right.text] := by
        rw [name_segments_eq, plain]
        rfl
      rw [name_segments_eq, nested, if_pos rfl, parts]
      obtain ⟨nonempty, text⟩ := ih
      rw [written_text source n _ _ written]
      cases segments : left.nameSegments with
      | nil => exact absurd segments nonempty
      | cons s ss =>
          rw [segments] at text
          simp [segments, last, Slot.chars, token.text, listing, ← text]

theorem name_read (n : Node) (kind : n.kind = "type_identifier" ∨ n.kind = "nested_type_identifier")
    (defined : n.text ≠ "undefined") :
    TypeExpr.ofNode n = .reference n.quote n.qualifiedName [] := by
  have reference : n.construct = .typeReference := by
    rcases kind with kind | kind
    · simp [construct, Construct.ofNode, kind, defined]
    · exact construct_of_kind n "nested_type_identifier" .typeReference kind (by decide) (by decide)
  have plain : n.kind ≠ "generic_type" := by
    rcases kind with kind | kind <;> rw [kind] <;> decide
  rw [TypeExpr.of_node_eq, reference]
  simp [Construct.typeForm, plain]

theorem generic_read (n name list : Node) (arguments : List Node)
    (written : n.Written source "generic_type" [.node name, .node list])
    (nameField : name.fields = ["name"]) (listField : list.fields = ["type_arguments"])
    (bracketed : list.Bracketed source "type_arguments" "<" ">" arguments)
    (parts : ∀ a ∈ arguments, a.IsPart) : TypeExpr.ofNode n =
      .reference n.quote name.qualifiedName (arguments.map TypeExpr.ofNode) := by
  have reference := construct_of_kind n "generic_type" .typeReference written.kind (by decide)
    (by decide)
  have named : n.field? "name" = some name := by
    simp [field?, written.children, Slot.node?, nameField]
  have listed : n.field? "type_arguments" = some list := by
    simp [field?, written.children, Slot.node?, nameField, listField]
  rw [TypeExpr.of_node_eq, reference]
  simp [Construct.typeForm, written.kind, named, TypeExpr.type_arguments_eq, listed,
    TypeExpr.of_parts_eq, bracketed_parts source list _ _ _ arguments bracketed parts]

theorem tuple_read (n : Node) (elements : List Node)
    (bracketed : n.Bracketed source "tuple_type" "[" "]" elements)
    (parts : ∀ e ∈ elements, e.IsPart) :
    TypeExpr.ofNode n = .tuple (elements.map TypeExpr.ofNode) := by
  have read := bracketed_parts source n _ _ _ elements bracketed parts
  obtain ⟨opening, slots, closing, written, -, -, -⟩ := bracketed
  have tuple := construct_of_kind n "tuple_type" .tupleType written.kind (by decide) (by decide)
  rw [TypeExpr.of_node_eq, tuple]
  simp [Construct.typeForm, TypeExpr.of_parts_eq, read]

-- The types that a node stands for as a member of a union.
def memberTypes (n : Node) : List TypeExpr :=
  if n.kind = "union_type" then TypeExpr.unionMembers n else [TypeExpr.ofNode n]

theorem union_read (n left bar right : Node)
    (written : n.Written source "union_type"
      [.node left, .blank " ", .node bar, .blank " ", .node right])
    (token : bar.IsToken "|") (leftPart : left.IsPart) (rightPart : right.IsPart)
    (nesting : right.kind ≠ "union_type") : TypeExpr.ofNode n = .union n.memberTypes ∧
      n.memberTypes = left.memberTypes ++ [TypeExpr.ofNode right] := by
  have union := construct_of_kind n "union_type" .unionType written.kind (by decide) (by decide)
  have parts := parts_around n left bar right "|" written.children token leftPart rightPart
  have members : n.memberTypes = TypeExpr.unionMembers n := by rw [memberTypes, if_pos written.kind]
  constructor
  · rw [TypeExpr.of_node_eq, union, members]
    rfl
  · rw [members, TypeExpr.union_members_eq, parts]
    simp [memberTypes, nesting]

theorem annotation_read (n colon type : Node) (annotated : Annotation source n colon type)
    (part : type.IsPart) : TypeExpr.ofAnnotated n = TypeExpr.ofNode type ∧
      n.text.toList = ':' :: ' ' :: type.text.toList := by
  have first := part_behind n colon type ":" annotated.written.children annotated.colon part
  constructor
  · rw [TypeExpr.of_annotated_eq, first]
    simp [isAnnotating, annotated.written.kind]
  · rw [written_text source n _ _ annotated.written]
    simp [Slot.chars, annotated.colon.text]

theorem param_read (type n : Node) (common : CommonParam source type n) (part : type.IsPart) :
    ∃ name optional, TypeExpr.param n = .plain ⟨some name, TypeExpr.ofNode type, optional⟩ ∧
      n.text.toList = name.toList ++
        ((if optional then ['?', ':', ' '] else [':', ' ']) ++ type.text.toList) := by
  cases common with
  | required name annotation colon written identifier pattern annotated =>
      obtain ⟨read, text⟩ := annotation_read source annotation colon type annotated part
      have named : n.field? "pattern" = some name := by
        simp [field?, written.children, Slot.node?, pattern]
      have typed : n.field? "type" = some annotation := by
        simp [field?, written.children, Slot.node?, pattern, annotated.field]
      refine ⟨name.text, false, ?_, ?_⟩
      · rw [TypeExpr.param, named, TypeExpr.annotated_eq, typed]
        simp [identifier, boundName?, read, written.kind]
      · rw [written_text source n _ _ written]
        simp [Slot.chars, text]
  | optional name question annotation colon written identifier pattern token annotated =>
      obtain ⟨read, text⟩ := annotation_read source annotation colon type annotated part
      have named : n.field? "pattern" = some name := by
        simp [field?, written.children, Slot.node?, pattern]
      have typed : n.field? "type" = some annotation := by
        simp [field?, written.children, Slot.node?, pattern, token.fields, annotated.field]
      refine ⟨name.text, true, ?_, ?_⟩
      · rw [TypeExpr.param, named, TypeExpr.annotated_eq, typed]
        simp [identifier, boundName?, read, written.kind]
      · rw [written_text source n _ _ written]
        simp [Slot.chars, token.text, text]

theorem rest_read (type n : Node) (common : CommonRest source type n) (part : type.IsPart) :
    ∃ name, TypeExpr.param n = .rest ⟨some name, TypeExpr.ofNode type, false⟩ ∧
      n.text.toList =
        '.' :: '.' :: '.' :: (name.toList ++ (':' :: ' ' :: type.text.toList)) := by
  cases common with
  | rest pattern dots name annotation colon written inner field token identifier named annotated =>
      obtain ⟨read, text⟩ := annotation_read source annotation colon type annotated part
      have patterned : n.field? "pattern" = some pattern := by
        simp [field?, written.children, Slot.node?, field]
      have typed : n.field? "type" = some annotation := by
        simp [field?, written.children, Slot.node?, field, annotated.field]
      have first := part_behind pattern dots name "..." inner.children token
        ⟨named, by rw [identifier]; decide⟩
      refine ⟨name.text, ?_, ?_⟩
      · rw [TypeExpr.param, patterned, TypeExpr.annotated_eq, typed]
        simp [inner.kind, first, boundName?, identifier, read]
      · rw [written_text source n _ _ written]
        have patternText := written_text source pattern _ _ inner
        simp only [List.flatMap_cons, List.flatMap_nil, Slot.chars, token.text] at patternText
        simp [Slot.chars, patternText, text]

theorem function_read (n list arrow result : Node) (items : List Node)
    (written : n.Written source "function_type"
      [.node list, .blank " ", .node arrow, .blank " ", .node result])
    (listField : list.fields = ["parameters"]) (token : arrow.IsToken "=>")
    (resultField : result.fields = ["return_type"])
    (bracketed : list.Bracketed source "formal_parameters" "(" ")" items)
    (parts : ∀ p ∈ items, p.IsPart)
    (direct : TypeExpr.ofAnnotated result = TypeExpr.ofNode result) :
    TypeExpr.ofNode n = .function ⟨none, (TypeExpr.splitRest (items.map TypeExpr.param)).1,
      (TypeExpr.splitRest (items.map TypeExpr.param)).2, TypeExpr.ofNode result⟩ := by
  have function := construct_of_kind n "function_type" .functionType written.kind (by decide)
    (by decide)
  have generic : n.field? "type_parameters" = none := by
    simp [field?, written.children, Slot.node?, listField, token.fields, resultField]
  have listed : n.field? "parameters" = some list := by
    simp [field?, written.children, Slot.node?, listField]
  have returned : n.field? "return_type" = some result := by
    simp [field?, written.children, Slot.node?, listField, token.fields, resultField]
  rw [TypeExpr.of_node_eq, function]
  simp [Construct.typeForm, TypeExpr.signature, TypeExpr.type_params_eq, generic,
    TypeExpr.params_eq, listed, TypeExpr.annotated_eq, returned, direct,
    bracketed_parts source list _ _ _ items bracketed parts]

-- The parameters in the order of their nodes, and the one after the dots.
theorem split_rest_append (params : List (Param TypeExpr)) (rest : Option (Param TypeExpr)) :
    TypeExpr.splitRest (params.map .plain ++ (rest.map .rest).toList) = (params, rest) := by
  induction params with
  | nil => cases rest <;> rfl
  | cons p params ih => simp [TypeExpr.splitRest, ih]

end

end Node

end FlowDefs
