import FlowDefs.Flow.Format
import FlowDefs.Proofs.Json.Reading
import FlowDefs.Proofs.Number.Lexemes
set_option autoImplicit false

namespace FlowDefs

open Json

theorem lexical_variant (name : String) (value : Json) (lexical : Lexical value) :
    Lexical (variant name value) :=
  .object _ (by simpa using lexical)

theorem lexical_map {α : Type} (encode : α → Json) (xs : List α)
    (each : ∀ x ∈ xs, Lexical (encode x)) : Lexical (.array (xs.map encode)) :=
  .array _ (by simpa using each)

theorem lexical_option {α : Type} (encode : α → Json) (x : Option α)
    (each : ∀ y ∈ x, Lexical (encode y)) : Lexical (.ofOption encode x) := by
  cases x with
  | none => exact .null
  | some y => exact each y rfl

theorem lexical_strings (texts : List String) : Lexical (.strings texts) :=
  lexical_map _ texts fun text _ => .string text

theorem lexical_nat (n : Nat) : Lexical (.ofNat n) :=
  .number _ (Number.lexeme_digits n).some (Number.lexeme_digits n).numeric

theorem lexical_number (x : Number.Binary64) : Lexical (encodeNumber x) := by
  unfold encodeNumber
  split
  · next text written =>
      have lexeme := Number.lexeme_number .json x text written
      exact .number text lexeme.some lexeme.numeric
  · exact .null

theorem lexical_comments (comments : List Comment) : Lexical (Comment.encodeAll comments) := by
  refine lexical_map _ comments fun c _ => .object _ ?_
  simpa using ⟨.string _, .string _⟩

theorem lexical_encode_literal (value : Json) (raw : String) (lexical : Lexical value) :
    Lexical (encodeLiteral value raw) :=
  .object _ (by simpa using ⟨lexical, .string raw⟩)

theorem lexical_literal (value : Literal) : Lexical value.encode := by
  cases value with
  | null => exact .string "null"
  | boolean value raw =>
      exact lexical_variant _ _ (lexical_encode_literal _ raw (.bool value))
  | number value raw =>
      exact lexical_variant _ _ (lexical_encode_literal _ raw (lexical_number value))
  | string value raw =>
      exact lexical_variant _ _ (lexical_encode_literal _ raw (.string value))

theorem lexical_key (key : PropertyKey) : Lexical key.encode := by
  cases key with
  | identifier name => exact lexical_variant _ _ (.string name)
  | string value raw => exact lexical_variant _ _ (lexical_encode_literal _ raw (.string value))

theorem lexical_primitive (word : Primitive) : Lexical word.encode := by
  cases word <;> exact .string _

namespace FlowType

mutual
theorem lexical_type (t : FlowType) : Lexical t.encode := by
  cases t with
  | primitive word => exact lexical_primitive word
  | literal value => exact lexical_literal value
  | reference name arguments comments =>
      refine lexical_variant _ _ (.object _ ?_)
      simpa using ⟨lexical_strings name.segments, lexical_arguments arguments,
        lexical_comments comments⟩
  | union members => exact lexical_variant _ _ (.array _ (lexical_all members))
  | array element => exact lexical_variant _ _ (lexical_type element)
  | tuple elements => exact lexical_variant _ _ (.array _ (lexical_all elements))
  | function signature => exact lexical_variant _ _ (lexical_signature signature)
  | object properties exact inexact =>
      refine lexical_variant _ _ (.object _ ?_)
      simpa using ⟨.array _ (lexical_properties properties), .bool exact, .bool inexact⟩
termination_by structural t
theorem lexical_arguments (types : Option (List FlowType)) :
    Lexical (encodeArguments types) := by
  cases types with
  | none => exact .null
  | some types => exact .array _ (lexical_all types)
termination_by structural types
theorem lexical_all (ts : List FlowType) : ∀ x ∈ encodeAll ts, Lexical x := by
  cases ts with
  | nil => exact List.forall_mem_nil _
  | cons t ts => exact List.forall_mem_cons.mpr ⟨lexical_type t, lexical_all ts⟩
termination_by structural ts
theorem lexical_type_option (t : Option FlowType) : Lexical (encodeOption t) := by
  cases t with
  | none => exact .null
  | some t => exact lexical_type t
termination_by structural t
theorem lexical_signature (s : Signature FlowType) : Lexical (encodeSignature s) := by
  obtain ⟨typeParams, params, rest, result⟩ := s
  refine .object _ ?_
  simpa using ⟨lexical_type_params typeParams, .array _ (lexical_params params),
    lexical_rest rest, lexical_type result⟩
termination_by structural s
theorem lexical_type_params (params : Option (List (TypeParam FlowType))) :
    Lexical (encodeTypeParams params) := by
  cases params with
  | none => exact .null
  | some params => exact .array _ (lexical_type_param_list params)
termination_by structural params
theorem lexical_type_param_list (params : List (TypeParam FlowType)) :
    ∀ x ∈ encodeTypeParamList params, Lexical x := by
  cases params with
  | nil => exact List.forall_mem_nil _
  | cons p params =>
      obtain ⟨name, bound, default⟩ := p
      refine List.forall_mem_cons.mpr ⟨.object _ ?_, lexical_type_param_list params⟩
      simpa using ⟨.string name, lexical_type_option bound, lexical_type_option default⟩
termination_by structural params
theorem lexical_param (p : Param FlowType) : Lexical (encodeParam p) := by
  obtain ⟨name, type, optional⟩ := p
  refine .object _ ?_
  simpa using ⟨lexical_option _ name fun text _ => .string text, lexical_type type,
    .bool optional⟩
termination_by structural p
theorem lexical_params (params : List (Param FlowType)) :
    ∀ x ∈ encodeParams params, Lexical x := by
  cases params with
  | nil => exact List.forall_mem_nil _
  | cons p params => exact List.forall_mem_cons.mpr ⟨lexical_param p, lexical_params params⟩
termination_by structural params
theorem lexical_rest (rest : Option (Param FlowType)) : Lexical (encodeRest rest) := by
  cases rest with
  | none => exact .null
  | some p => exact lexical_param p
termination_by structural rest
theorem lexical_properties (properties : List (Property FlowType)) :
    ∀ x ∈ encodeProperties properties, Lexical x := by
  cases properties with
  | nil => exact List.forall_mem_nil _
  | cons p properties =>
      obtain ⟨key, value, optional⟩ := p
      refine List.forall_mem_cons.mpr ⟨.object _ ?_, lexical_properties properties⟩
      simpa using ⟨lexical_key key, lexical_type value, .bool optional⟩
termination_by structural properties
end

end FlowType

theorem lexical_variable (v : Variable FlowType) : Lexical v.encode :=
  .object _ (by simpa using ⟨.string v.name, FlowType.lexical_type_option v.type⟩)

theorem lexical_declaration (d : Declaration FlowType) : Lexical d.encode := by
  cases d with
  | vars names =>
      refine lexical_variant _ _ (.object _ ?_)
      simpa using lexical_map Variable.encode names fun v _ => lexical_variable v
  | typeAlias id typeParams right =>
      refine lexical_variant _ _ (.object _ ?_)
      simpa using ⟨.string id, FlowType.lexical_type_params typeParams, right.lexical_type⟩
  | function id signature =>
      refine lexical_variant _ _ (.object _ ?_)
      simpa using ⟨.string id, FlowType.lexical_signature signature⟩

theorem lexical_kind (kind : ImportKind) : Lexical kind.encode := by
  cases kind <;> exact .string _

theorem lexical_specifier (s : ImportSpecifier) : Lexical s.encode := by
  cases s with
  | default localName => exact lexical_variant _ _ (.object _ (by simpa using .string localName))
  | wholeModule localName =>
      exact lexical_variant _ _ (.object _ (by simpa using .string localName))
  | named imported localName kind =>
      refine lexical_variant _ _ (.object _ ?_)
      simpa using ⟨.string imported, .string localName,
        lexical_option _ kind fun k _ => lexical_kind k⟩

theorem lexical_import (d : ImportDeclaration) : Lexical d.encode := by
  refine .object _ ?_
  simpa using ⟨lexical_kind d.kind,
    lexical_map ImportSpecifier.encode d.specifiers fun s _ => lexical_specifier s,
    .string d.source⟩

theorem lexical_statement (s : Statement) : Lexical s.encode := by
  cases s with
  | empty comments =>
      exact lexical_variant _ _ (.object _ (by simpa using lexical_comments comments))
  | importing d => exact lexical_variant _ _ (lexical_import d)
  | exportDefault target =>
      refine lexical_variant _ _ ?_
      cases target with
      | identifier name => exact lexical_variant _ _ (.string name)
      | declaration d => exact lexical_variant _ _ (lexical_declaration d)
  | exportNamed d => exact lexical_variant _ _ (lexical_declaration d)
  | declaration d => exact lexical_variant _ _ (lexical_declaration d)

theorem lexical_span (span : Span) : Lexical span.encode :=
  .object _ (by simpa using ⟨lexical_nat span.start, lexical_nat span.stop⟩)

theorem lexical_diagnostic (d : Diagnostic) : Lexical d.encode := by
  refine .object _ ?_
  simpa using ⟨.string d.message, lexical_option _ d.span fun span _ => lexical_span span⟩

theorem lexical_converted (converted : ConvertedFile) : Lexical converted.encode := by
  have file : Lexical converted.file.encode := by
    refine .object _ ?_
    simpa using ⟨.string converted.file.name, lexical_strings converted.file.header,
      lexical_map ImportDeclaration.encode converted.file.imports fun d _ => lexical_import d,
      lexical_map Statement.encode converted.file.body fun s _ => lexical_statement s⟩
  refine .object _ ?_
  simpa using ⟨file,
    lexical_map Diagnostic.encode converted.diagnostics fun d _ => lexical_diagnostic d⟩

end FlowDefs
