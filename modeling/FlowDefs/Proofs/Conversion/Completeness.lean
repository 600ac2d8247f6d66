import FlowDefs.Proofs.Conversion.Origin
import FlowDefs.Proofs.Conversion.Refinement
import FlowDefs.Proofs.TypeScript.Soundness
set_option autoImplicit false

namespace FlowDefs

def IsTag (tag : String) : Prop :=
  ∃ reason, tag = "tsflow-unimplemented: " ++ reason ∨ tag = "tsflow-error: " ++ reason

theorem unsupported_is_tag (construct : Construct) : IsTag (unsupportedTag construct) :=
  ⟨construct.name, .inl rfl⟩

theorem error_is_tag (description : String) : IsTag (errorTag description) :=
  ⟨description, .inr rfl⟩

namespace FlowType

def isInexact : FlowType → Bool
  | .object _ _ inexact => inexact
  | _ => false

-- What a type of a result satisfies by itself, wherever it stands.
def Complete (source : Node) : FlowType → Prop
  | .literal value => value.Spelled source
  | .reference name arguments comments =>
    arguments ≠ some [] ∧
      (comments = [] ∨ name = fixme ∧ arguments = none ∧ ∃ d ∈ source.nodes, ∃ tag,
        IsTag tag ∧ comments = [⟨d.text, .trailing⟩, ⟨tag, .trailing⟩])
  | .union members => ∀ inner : List FlowType, .union inner ∉ members
  | .function signature => ∀ p ∈ signature.rest, p.optional = false
  | .object properties exact inexact =>
    (exact = true ∧ inexact = false ∧ ∀ p ∈ properties, p.key.Spelled) ∨
      (exact = false ∧ inexact = true ∧ properties = [])
  | _ => True

-- An object type that is open stands for the properties that a component does not state.
def InexactInComponent (resolve : Resolver) (t : FlowType) : Prop :=
  ∀ part ∈ t.parts, part.isInexact = true →
    ∃ name, resolve name = some (.expand .component) ∧ t = .component name []

theorem named_complete (source : Node) (name : QualifiedName) (arguments : List FlowType) :
    (named name arguments).Complete source := by
  refine ⟨?_, .inl rfl⟩
  cases arguments with
  | nil => nofun
  | cons => nofun

theorem placeholder_complete (source : Node) (quote : Quote)
    (quoted : TypeExpr.Quoted source quote) (tag : String) (known : IsTag tag) :
    (placeholder quote tag).Complete source := by
  obtain ⟨d, inside, rfl⟩ := quoted
  exact ⟨nofun, .inr ⟨rfl, rfl, d, inside, tag, known, rfl⟩⟩

end FlowType

namespace TypeExpr

variable (resolve : Resolver)

theorem reference_value (source : Quote) (name : QualifiedName) (arguments : List TypeExpr) :
    (∃ name' arguments', (toFlow resolve (.reference source name arguments)).value =
        .named name' arguments') ∨
      ∃ fault, (toFlow resolve (.reference source name arguments)).value =
        .invalid source fault := by
  cases rule : resolve name with
  | none => exact .inl ⟨_, _, plain_reference_value resolve source name arguments rule⟩
  | some found =>
      cases found with
      | substitute s =>
          exact .inl ⟨_, _, substituted_reference_value resolve source name arguments s rule⟩
      | expand expansion =>
          rw [expanded_reference_value resolve source name arguments expansion rule]
          by_cases many : 2 < arguments.length
          · obtain ⟨fault, refused⟩ := expansion_refuses resolve expansion name arguments many
            rw [refused]
            exact .inr ⟨fault, rfl⟩
          · obtain ⟨_, _, translated⟩ := expansion_translates resolve expansion name arguments many
            rw [translated]
            exact .inl ⟨_, _, rfl⟩

theorem value_exact (t : TypeExpr) : (t.toFlow resolve).value.isInexact = false := by
  cases t with
  | reference source name arguments =>
      rcases reference_value resolve source name arguments with ⟨_, _, same⟩ | ⟨_, same⟩
      · rw [same]
        rfl
      · rw [same]
        rfl
  | object source properties fault => cases fault <;> rfl
  | _ => rfl

theorem value_flat (t : TypeExpr) (flat : ∀ members, t ≠ .union members)
    (inner : List FlowType) : (t.toFlow resolve).value ≠ .union inner := by
  cases t with
  | reference source name arguments =>
      rcases reference_value resolve source name arguments with ⟨_, _, same⟩ | ⟨_, same⟩
      · rw [same]
        nofun
      · rw [same]
        nofun
  | object source properties fault => cases fault <;> nofun
  | union members => exact absurd rfl (flat members)
  | _ => nofun

theorem signature_value_rest (s : Signature TypeExpr)
    (required : ∀ p ∈ s.rest, p.optional = false) :
    ∀ p ∈ (toFlowSignature resolve s).value.rest, p.optional = false := by
  obtain ⟨typeParams, params, rest, result⟩ := s
  cases rest with
  | none => nofun
  | some p =>
      obtain ⟨name, type, optional⟩ := p
      intro q same
      cases same
      exact required ⟨name, type, optional⟩ rfl

theorem properties_value_keys (properties : List (Property TypeExpr)) :
    (toFlowProperties resolve properties).value.map Property.key =
      properties.map Property.key := by
  induction properties with
  | nil => rfl
  | cons p properties ih =>
      obtain ⟨key, value, optional⟩ := p
      simp [toFlowProperties, ih]

theorem value_complete (source : Node) (t : TypeExpr) (sound : t.Sound source) :
    (t.toFlow resolve).value.Complete source := by
  cases t with
  | keyword => exact trivial
  | literal value => exact sound
  | reference quote name arguments =>
      rcases reference_value resolve quote name arguments with ⟨_, _, same⟩ | ⟨fault, same⟩
      · rw [same]
        exact FlowType.named_complete source _ _
      · rw [same]
        exact FlowType.placeholder_complete source quote sound _ (error_is_tag fault.message)
  | union members =>
      intro inner member
      change .union inner ∈ (inOrder (toFlowEach resolve members)).value at member
      rw [to_flow_all_eq] at member
      obtain ⟨m, listed, same⟩ := List.mem_map.mp member
      exact value_flat resolve m (fun nested equal => sound nested (equal ▸ listed)) inner same
  | array => exact trivial
  | tuple => exact trivial
  | function signature => exact signature_value_rest resolve signature sound
  | object quote properties fault =>
      cases fault with
      | none =>
          refine .inl ⟨rfl, rfl, ?_⟩
          intro p member
          have key : p.key ∈ properties.map Property.key := by
            rw [← properties_value_keys resolve]
            exact List.mem_map_of_mem member
          obtain ⟨q, listed, same⟩ := List.mem_map.mp key
          rw [← same]
          exact sound.2 q listed
      | some fault =>
          exact FlowType.placeholder_complete source quote sound.1 _ (error_is_tag fault.message)
  | unsupported quote construct =>
      exact FlowType.placeholder_complete source quote sound _ (unsupported_is_tag construct)
  | invalid quote fault =>
      exact FlowType.placeholder_complete source quote sound _ (error_is_tag fault.message)

theorem added_complete (source : Node) (t : TypeExpr) (u : FlowType) (member : u ∈ t.added resolve) :
    u.Complete source := by
  cases t with
  | reference quote name arguments =>
      simp only [added] at member
      unfold addedArguments at member
      split at member
      · rw [List.mem_singleton.mp member]
        exact .inr ⟨rfl, rfl, rfl⟩
      · rw [List.mem_singleton.mp member]
        exact FlowType.named_complete source _ []
      · rw [List.mem_singleton.mp member]
        exact FlowType.named_complete source _ _
      · cases member
  | _ => cases member

theorem added_inexact (t : TypeExpr) (u : FlowType) (member : u ∈ t.added resolve)
    (inexact : u.isInexact = true) :
    ∃ name, resolve name = some (.expand .component) ∧
      (t.toFlow resolve).value = .component name [] := by
  cases t with
  | reference quote name arguments =>
      simp only [added] at member
      unfold addedArguments at member
      split at member
      · next rule =>
          exact ⟨name, rule, expanded_reference_value resolve quote name [] .component rule⟩
      · rw [List.mem_singleton.mp member] at inexact
        cases inexact
      · rw [List.mem_singleton.mp member] at inexact
        cases inexact
      · cases member
  | _ => cases member

theorem value_inexact (t : TypeExpr) : (t.toFlow resolve).value.InexactInComponent resolve := by
  intro part member inexact
  rw [value_parts] at member
  split at member
  · obtain ⟨k, _, rfl⟩ := List.mem_map.mp member
    rw [value_exact] at inexact
    cases inexact
  · exact added_inexact resolve t part member inexact

theorem added_parts_exact (t : TypeExpr) (u : FlowType) (member : u ∈ t.added resolve) :
    u.InexactInComponent resolve := by
  intro part inside inexact
  rw [added_parts resolve t u member] at inside
  obtain ⟨k, _, rfl⟩ := List.mem_map.mp inside
  rw [value_exact] at inexact
  cases inexact

theorem origin_complete (source : Node) (t : TypeExpr) (u : FlowType) (s : Option Substitution)
    (origin : Origin resolve t u s) (faithful : Faithful source t) :
    u.Complete source ∧ u.InexactInComponent resolve := by
  induction origin with
  | value t =>
      cases faithful with
      | intro _ sound parts => exact ⟨value_complete resolve source t sound, value_inexact resolve t⟩
  | added t u member =>
      exact ⟨added_complete resolve source t u member, added_parts_exact resolve t u member⟩
  | kept t part u s member inner ih =>
      cases faithful with
      | intro _ sound parts =>
          exact ih (parts part (converted_part resolve t part (kept_converted resolve t part member)))

end TypeExpr

def Statement.declared? : Statement → Option (Declaration FlowType)
  | .exportDefault (.declaration d) => some d
  | .exportNamed d => some d
  | .declaration d => some d
  | _ => none

structure Statement.Complete (resolve : Resolver) (source : Node) (s : Statement) : Prop where
  placeholder : ∀ comments, s = .empty comments → ∃ tag, IsTag tag ∧
    comments = [⟨tag, .leading⟩, ⟨source.text, .trailing⟩]
  rest : ∀ id signature, s.declared? = some (.function id signature) →
    ∀ p ∈ signature.rest, p.optional = false
  outer : ∀ t ∈ s.types, t.isInexact = false
  contained : ∀ u, s.Contains u → u.Complete source ∧ u.InexactInComponent resolve

variable (resolve : Resolver)

theorem content_placeholder (source : Quote) (content : Content) (comments : List Comment)
    (same : (content.toFlow resolve source).value = .empty comments) :
    ∃ tag, IsTag tag ∧ comments = [⟨tag, .leading⟩, ⟨source.text, .trailing⟩] := by
  cases content with
  | unsupported construct =>
      cases same
      exact ⟨_, unsupported_is_tag construct, rfl⟩
  | rejected fault =>
      cases same
      exact ⟨_, error_is_tag fault.message, rfl⟩
  | abandoned fault bound read =>
      cases same
      exact ⟨_, error_is_tag _, rfl⟩
  | importing d => cases same
  | exportName name => cases same
  | declaration d => cases same

theorem export_keeps (modifier : ExportModifier) (source : Quote) (s : Statement) :
    (exportStatement modifier source s).value.declared? = s.declared? ∧
      ∀ comments, (exportStatement modifier source s).value = .empty comments →
        s = .empty comments := by
  cases s with
  | declaration d => cases modifier <;> exact ⟨rfl, nofun⟩
  | _ => exact ⟨rfl, fun _ same => same⟩

-- An export changes the place of a declaration and leaves placeholders alone.
theorem statement_keeps (s : SourceStatement) :
    (s.toFlow resolve).value.declared? =
        (s.content.toFlow resolve s.node.quote).value.declared? ∧
      ∀ comments, (s.toFlow resolve).value = .empty comments →
        (s.content.toFlow resolve s.node.quote).value = .empty comments := by
  unfold SourceStatement.toFlow
  cases s.exported with
  | none => exact ⟨rfl, fun _ same => same⟩
  | some modifier => exact export_keeps modifier s.node.quote _

theorem content_declared (source : Quote) (content : Content) (id : String)
    (signature : Signature FlowType)
    (declared : (content.toFlow resolve source).value.declared? = some (.function id signature)) :
    ∃ read, content = .declaration (.function id read) ∧
      signature = (TypeExpr.toFlowSignature resolve read).value := by
  cases content with
  | declaration d =>
      cases d with
      | function name read =>
          cases declared
          exact ⟨read, rfl, rfl⟩
      | vars names => cases declared
      | typeAlias name typeParams right => cases declared
  | _ => cases declared

theorem statement_complete (n : Node) :
    (n.statement.toFlow resolve).value.Complete resolve n := by
  have quote : n.statement.node.quote.text = n.text := by rw [Node.statement_node]; rfl
  refine ⟨?_, ?_, ?_, ?_⟩
  · intro comments same
    rw [← quote]
    exact content_placeholder resolve _ _ comments ((statement_keeps resolve _).2 comments same)
  · intro id signature declared
    rw [(statement_keeps resolve _).1] at declared
    obtain ⟨read, content, rfl⟩ := content_declared resolve _ _ id signature declared
    exact TypeExpr.signature_value_rest resolve read
      (Content.declared_rest_required n.statement.body id read content)
  · intro t member
    rw [statement_to_flow_types] at member
    obtain ⟨read, _, rfl⟩ := List.mem_map.mp member
    exact TypeExpr.value_exact resolve read
  · intro u contains
    obtain ⟨s, t, member, origin⟩ := (statement_contains_iff resolve n.statement u).mp contains
    cases content : n.statement.content with
    | declaration d =>
        rw [content] at member
        exact TypeExpr.origin_complete resolve n t u s origin
          (Content.declaration_faithful n n.statement.body (Node.statement_body_mem n) d content t member)
    | _ =>
        rw [content] at member
        cases member

theorem converted_statement_complete (catalog : Catalog) (session : Session) (n : Node) :
    (session.convert catalog n.statement).1.Complete (catalog.resolve session.bindings) n := by
  rw [Session.convert_value]
  exact statement_complete _ n

end FlowDefs
