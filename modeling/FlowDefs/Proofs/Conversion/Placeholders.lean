import FlowDefs.Proofs.Conversion.Completeness
import FlowDefs.Proofs.Flow.Placeholders
set_option autoImplicit false

namespace FlowDefs

namespace TypeExpr

-- What is a placeholder by itself, whatever its parts are.
inductive Untranslated (resolve : Resolver) : TypeExpr → Prop where
  | unsupported (source : Quote) (construct : Construct) :
      Untranslated resolve (.unsupported source construct)
  | invalid (source : Quote) (fault : Fault) : Untranslated resolve (.invalid source fault)
  | object (source : Quote) (properties : List (Property TypeExpr)) (fault : Fault) :
      Untranslated resolve (.object source properties (some fault))
  | reference (source : Quote) (name : QualifiedName) (arguments : List TypeExpr)
      (expansion : Expansion) (rule : resolve name = some (.expand expansion))
      (many : 2 < arguments.length) : Untranslated resolve (.reference source name arguments)

inductive Keeps (resolve : Resolver) (u : TypeExpr) : TypeExpr → Prop where
  | here : Keeps resolve u u
  | inside (t part : TypeExpr) (member : part ∈ t.kept resolve) (inner : Keeps resolve u part) :
      Keeps resolve u t

variable (resolve : Resolver)

theorem named_no_placeholder (name : QualifiedName) (types : List FlowType) :
    (FlowType.named name types).isPlaceholder = false := by
  simp [FlowType.named, FlowType.isPlaceholder]

theorem untranslated_value (t : TypeExpr) (untranslated : t.Untranslated resolve) :
    (∃ source construct, (t.toFlow resolve).value = .unsupported source construct) ∨
      ∃ source fault, (t.toFlow resolve).value = .invalid source fault := by
  cases untranslated with
  | unsupported source construct => exact .inl ⟨source, construct, rfl⟩
  | invalid source fault => exact .inr ⟨source, fault, rfl⟩
  | object source properties fault => exact .inr ⟨source, fault, rfl⟩
  | reference source name arguments expansion rule many =>
      obtain ⟨fault, refused⟩ := expansion_refuses resolve expansion name arguments many
      right
      rw [expanded_reference_value resolve source name arguments expansion rule, refused]
      exact ⟨source, fault, rfl⟩

theorem value_placeholder (t : TypeExpr) (untranslated : t.Untranslated resolve) :
    (t.toFlow resolve).value.isPlaceholder = true := by
  rcases untranslated_value resolve t untranslated with ⟨_, _, same⟩ | ⟨_, _, same⟩
  · rw [same]
    rfl
  · rw [same]
    rfl

theorem untranslated_of_placeholder (t : TypeExpr)
    (placeholder : (t.toFlow resolve).value.isPlaceholder = true) : t.Untranslated resolve := by
  cases t with
  | unsupported source construct => exact .unsupported source construct
  | invalid source fault => exact .invalid source fault
  | object source properties fault =>
      cases fault with
      | none => cases placeholder
      | some fault => exact .object source properties fault
  | reference source name arguments =>
      cases rule : resolve name with
      | none =>
          rw [plain_reference_value resolve source name arguments rule, named_no_placeholder]
            at placeholder
          cases placeholder
      | some found =>
          cases found with
          | substitute s =>
              rw [substituted_reference_value resolve source name arguments s rule,
                named_no_placeholder] at placeholder
              cases placeholder
          | expand expansion =>
              refine .reference source name arguments expansion rule (Classical.byContradiction ?_)
              intro few
              obtain ⟨_, _, translated⟩ := expansion_translates resolve expansion name arguments few
              rw [expanded_reference_value resolve source name arguments expansion rule, translated,
                FlowType.orInvalid, named_no_placeholder] at placeholder
              cases placeholder
  | _ => cases placeholder

theorem added_no_placeholder (t : TypeExpr) (u : FlowType) (member : u ∈ t.added resolve) :
    u.isPlaceholder = false := by
  cases t with
  | reference source name arguments =>
      simp only [added] at member
      unfold addedArguments at member
      split at member
      · rw [List.mem_singleton.mp member]
        rfl
      · rw [List.mem_singleton.mp member]
        exact named_no_placeholder _ []
      · rw [List.mem_singleton.mp member]
        exact named_no_placeholder _ _
      · cases member
  | _ => cases member

theorem origin_kept (t : TypeExpr) (v : FlowType) (s : Option Substitution)
    (origin : Origin resolve t v s) (placeholder : v.isPlaceholder = true) :
    ∃ u, Keeps resolve u t ∧ v = (u.toFlow resolve).value := by
  induction origin with
  | value t => exact ⟨t, .here, rfl⟩
  | added t u member =>
      rw [added_no_placeholder resolve t u member] at placeholder
      cases placeholder
  | kept t part u s member inner ih =>
      obtain ⟨w, keeps, same⟩ := ih placeholder
      exact ⟨w, .inside t part member keeps, same⟩

theorem keeps_occurs (t u : TypeExpr) (keeps : Keeps resolve u t) :
    (u.toFlow resolve).value.Occurs (t.toFlow resolve).value := by
  induction keeps with
  | here => exact .here
  | inside t part member inner ih => exact occurs_trans _ _ _ ih (kept_occurs resolve t part member)

theorem placeholder_occurs_iff (t : TypeExpr) :
    (∃ v : FlowType, v.Occurs (t.toFlow resolve).value ∧ v.isPlaceholder = true) ↔
      ∃ u, Keeps resolve u t ∧ u.Untranslated resolve := by
  constructor
  · rintro ⟨v, occurs, placeholder⟩
    obtain ⟨s, origin⟩ := (occurs_origin resolve v _ occurs).1 t rfl
    obtain ⟨u, keeps, rfl⟩ := origin_kept resolve t v s origin placeholder
    exact ⟨u, keeps, untranslated_of_placeholder resolve u placeholder⟩
  · rintro ⟨u, keeps, untranslated⟩
    exact ⟨_, keeps_occurs resolve t u keeps, value_placeholder resolve u untranslated⟩

-- The kept parts of a type that the placeholders of its result stand for, in order.
def placeholderSources (resolve : Resolver) (t : TypeExpr) : List TypeExpr :=
  if (t.toFlow resolve).value.isPlaceholder then [t]
  else (t.kept resolve).attach.flatMap fun ⟨p, h⟩ =>
    have := size_of_part t p (converted_part resolve t p (kept_converted resolve t p h))
    placeholderSources resolve p
termination_by sizeOf t

theorem placeholder_sources_eq (t : TypeExpr) : t.placeholderSources resolve =
    if (t.toFlow resolve).value.isPlaceholder then [t]
    else (t.kept resolve).flatMap (placeholderSources resolve) := by
  rw [placeholderSources]
  split
  · rfl
  · rw [List.flatMap_subtype (g := placeholderSources resolve) fun _ _ => rfl,
      List.unattach_attach]

theorem untranslated_keeps_none (t : TypeExpr) (untranslated : t.Untranslated resolve) :
    t.kept resolve = [] := by
  cases untranslated with
  | unsupported source construct => rfl
  | invalid source fault => rfl
  | object source properties fault => rfl
  | reference source name arguments expansion rule many =>
      change convertedArguments (resolve name) arguments = []
      rw [rule]
      cases expansion with
      | component => rw [convertedArguments, if_pos many]
      | reactElement =>
          rcases arguments with _ | ⟨first, _ | ⟨second, _ | ⟨third, more⟩⟩⟩
          · cases many
          · simp at many
          · simp at many
          · rfl

theorem mem_placeholder_sources_iff (t u : TypeExpr) : u ∈ t.placeholderSources resolve ↔
    Keeps resolve u t ∧ u.Untranslated resolve := by
  constructor
  · intro member
    induction t using by_parts with
    | step t ih =>
        rw [placeholder_sources_eq] at member
        by_cases placeholder : (t.toFlow resolve).value.isPlaceholder = true
        · rw [if_pos placeholder] at member
          rw [List.mem_singleton.mp member]
          exact ⟨.here, untranslated_of_placeholder resolve t placeholder⟩
        · rw [if_neg placeholder] at member
          obtain ⟨p, kept, inside⟩ := List.mem_flatMap.mp member
          have part := converted_part resolve t p (kept_converted resolve t p kept)
          obtain ⟨keeps, untranslated⟩ := ih p part inside
          exact ⟨.inside t p kept keeps, untranslated⟩
  · rintro ⟨keeps, untranslated⟩
    induction keeps with
    | here =>
        rw [placeholder_sources_eq, if_pos (value_placeholder resolve u untranslated)]
        exact List.mem_singleton_self u
    | inside t part member inner ih =>
        have translated : (t.toFlow resolve).value.isPlaceholder ≠ true := by
          intro placeholder
          rw [untranslated_keeps_none resolve t (untranslated_of_placeholder resolve t placeholder)]
            at member
          cases member
        rw [placeholder_sources_eq, if_neg translated]
        exact List.mem_flatMap.mpr ⟨part, member, ih⟩

theorem added_single (t : TypeExpr) : t.added resolve = [] ∨ ∃ u, t.added resolve = [u] := by
  cases t with
  | reference source name arguments =>
      simp only [added]
      unfold addedArguments
      split <;> simp
  | _ => exact .inl rfl

theorem placeholder_types_value (t : TypeExpr) : (t.toFlow resolve).value.placeholderTypes =
    (t.placeholderSources resolve).map fun u => (u.toFlow resolve).value := by
  induction t using by_parts with
  | step t ih =>
      have kept : ((t.kept resolve).map fun p => (p.toFlow resolve).value).flatMap
          FlowType.placeholderTypes = ((t.kept resolve).flatMap (placeholderSources resolve)).map
            fun u => (u.toFlow resolve).value := by
        rw [List.flatMap_map, List.map_flatMap]
        exact List.flatMap_congr fun p member =>
          ih p (converted_part resolve t p (kept_converted resolve t p member))
      rw [FlowType.placeholder_types_eq, placeholder_sources_eq]
      by_cases placeholder : (t.toFlow resolve).value.isPlaceholder = true
      · have childless : (t.toFlow resolve).value.parts = [] := by
          rcases untranslated_value resolve t (untranslated_of_placeholder resolve t placeholder) with
            ⟨_, _, same⟩ | ⟨_, _, same⟩
          · rw [same, unsupported_parts]
          · rw [same, invalid_parts]
        rw [if_pos placeholder, if_pos placeholder, childless]
        rfl
      · rw [if_neg placeholder, if_neg placeholder, List.nil_append, value_parts]
        rcases added_single resolve t with none | ⟨u, single⟩
        · rw [none]
          exact kept
        · have member : u ∈ t.added resolve := by simp [single]
          rw [single]
          dsimp only
          rw [List.flatMap_singleton, FlowType.placeholder_types_eq,
            added_no_placeholder resolve t u member, added_parts resolve t u member]
          exact kept

end TypeExpr

namespace Content

def isRefused : Content → Bool
  | .unsupported _ => true
  | .rejected _ => true
  | .abandoned _ _ _ => true
  | _ => false

theorem refused_placeholder (resolve : Resolver) (source : Quote) (content : Content) :
    (content.toFlow resolve source).value.isPlaceholder = content.isRefused := by
  cases content <;> rfl

end Content

variable (resolve : Resolver)

theorem statement_refused (s : SourceStatement) :
    (s.toFlow resolve).value.isPlaceholder = s.content.isRefused := by
  have exported (modifier : ExportModifier) (source : Quote) (result : Statement) :
      (exportStatement modifier source result).value.isPlaceholder = result.isPlaceholder := by
    cases result with
    | declaration d => cases modifier <;> rfl
    | _ => rfl
  rw [← Content.refused_placeholder resolve s.node.quote]
  unfold SourceStatement.toFlow
  cases s.exported with
  | none => rfl
  | some modifier => exact exported modifier s.node.quote _

theorem statement_has_placeholder_iff (s : SourceStatement) :
    0 < (s.toFlow resolve).value.placeholders ↔ s.content.isRefused = true ∨
      ∃ t ∈ s.content.types, ∃ u, TypeExpr.Keeps resolve u t ∧ u.Untranslated resolve := by
  rw [Statement.placeholders_pos_iff, statement_refused]
  refine or_congr Iff.rfl ?_
  constructor
  · rintro ⟨v, ⟨w, member, occurs⟩, placeholder⟩
    rw [statement_to_flow_types] at member
    obtain ⟨t, listed, rfl⟩ := List.mem_map.mp member
    exact ⟨t, listed, (TypeExpr.placeholder_occurs_iff resolve t).mp ⟨v, occurs, placeholder⟩⟩
  · rintro ⟨t, listed, kept⟩
    obtain ⟨v, occurs, placeholder⟩ := (TypeExpr.placeholder_occurs_iff resolve t).mpr kept
    refine ⟨v, ⟨_, ?_, occurs⟩, placeholder⟩
    rw [statement_to_flow_types]
    exact List.mem_map_of_mem listed

-- What the placeholders among the types of a result stand for, in order.
def SourceStatement.placeholderSources (s : SourceStatement) (resolve : Resolver) :
    List TypeExpr :=
  s.content.types.flatMap (TypeExpr.placeholderSources resolve)

theorem statement_placeholder_types (s : SourceStatement) :
    (s.toFlow resolve).value.placeholderTypes =
      (s.placeholderSources resolve).map fun u => (u.toFlow resolve).value := by
  rw [Statement.placeholderTypes, statement_to_flow_types, SourceStatement.placeholderSources,
    List.flatMap_map, List.map_flatMap]
  exact List.flatMap_congr fun t _ => TypeExpr.placeholder_types_value resolve t

end FlowDefs
