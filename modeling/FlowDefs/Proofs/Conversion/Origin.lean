import FlowDefs.Proofs.Conversion.Parts
set_option autoImplicit false

namespace FlowDefs

namespace TypeExpr

def substitution? (resolve : Resolver) : TypeExpr → Option Substitution
  | .reference _ name _ =>
    match resolve name with
    | some (.substitute s) => some s
    | _ => none
  | _ => none

-- The arguments of a reference that its rule converts.
def convertedArguments (rule : Option Rule) (arguments : List TypeExpr) : List TypeExpr :=
  match rule, arguments with
  | some (.expand .component), arguments => if 2 < arguments.length then [] else arguments
  | some (.expand .reactElement), [properties] => [properties]
  | some (.expand .reactElement), [_, type] => [type]
  | some (.expand .reactElement), _ => []
  | _, arguments => arguments

def converted (resolve : Resolver) (t : TypeExpr) : List TypeExpr :=
  match t with
  | .reference _ name arguments => convertedArguments (resolve name) arguments
  | t => t.parts

-- The parts whose values stay in the result: a faulty object type drops its properties.
def kept (resolve : Resolver) (t : TypeExpr) : List TypeExpr :=
  match t with
  | .object _ _ (some _) => []
  | t => t.converted resolve

def addedArguments (resolve : Resolver) (rule : Option Rule) (arguments : List TypeExpr) :
    List FlowType :=
  match rule, arguments with
  | some (.expand .component), [] => [.openObject]
  | some (.expand .reactElement), [] => [.bare "React$ElementType"]
  | some (.expand .reactElement), [properties] =>
    [.named (.bare "React$ComponentType") [(toFlow resolve properties).value]]
  | _, _ => []

-- The parts of a result that a rule adds by itself.
def added (resolve : Resolver) : TypeExpr → List FlowType
  | .reference _ name arguments => addedArguments resolve (resolve name) arguments
  | _ => []

def ownDiagnostics : TypeExpr → List Diagnostic
  | .object source _ (some fault) =>
    [⟨"type literal: " ++ fault.message, some source.span⟩]
  | _ => []

inductive Origin (resolve : Resolver) : TypeExpr → FlowType → Option Substitution → Prop where
  | value (t : TypeExpr) : Origin resolve t (t.toFlow resolve).value (t.substitution? resolve)
  | added (t : TypeExpr) (u : FlowType) (member : u ∈ t.added resolve) : Origin resolve t u none
  | kept (t part : TypeExpr) (u : FlowType) (s : Option Substitution)
      (member : part ∈ t.kept resolve) (inner : Origin resolve part u s) : Origin resolve t u s

variable (resolve : Resolver)

theorem component_to_flow (name : QualifiedName) (arguments : List TypeExpr) :
    Expansion.component.toFlow name (toFlowEach resolve arguments) =
      if 2 < arguments.length then pure (.error (.componentArguments arguments.length))
      else Converted.each (toFlow resolve) arguments >>= fun types =>
        pure (.ok (.component name types)) := by
  have count : (toFlowEach resolve arguments).length = arguments.length := by
    rw [to_flow_each_eq, List.length_map]
  rw [Expansion.toFlow, to_flow_all_eq, count]

theorem expansion_to_flow_adds (expansion : Expansion) (name : QualifiedName)
    (arguments : List TypeExpr) :
    let c := expansion.toFlow name (toFlowEach resolve arguments)
    let converted := convertedArguments (some (.expand expansion)) arguments
    c.imports = converted.flatMap (fun p => (p.toFlow resolve).imports) ∧
      c.diagnostics = converted.flatMap fun p => (p.toFlow resolve).diagnostics := by
  cases expansion with
  | component =>
      rw [component_to_flow]
      by_cases many : 2 < arguments.length <;> simp [convertedArguments, many, Converted.each]
  | reactElement =>
      rcases arguments with _ | ⟨first, _ | ⟨second, _ | ⟨third, more⟩⟩⟩ <;>
        simp [Expansion.toFlow, toFlowEach, convertedArguments]

theorem expansion_refuses (expansion : Expansion) (name : QualifiedName)
    (arguments : List TypeExpr) (many : 2 < arguments.length) :
    ∃ fault, (expansion.toFlow name (toFlowEach resolve arguments)).value = .error fault := by
  cases expansion with
  | component =>
      rw [component_to_flow, if_pos many]
      exact ⟨_, rfl⟩
  | reactElement =>
      rcases arguments with _ | ⟨first, _ | ⟨second, _ | ⟨third, more⟩⟩⟩
      · simp at many
      · simp at many
      · simp at many
      · exact ⟨_, rfl⟩

theorem expansion_translates (expansion : Expansion) (name : QualifiedName)
    (arguments : List TypeExpr) (few : ¬2 < arguments.length) :
    ∃ translated types,
      (expansion.toFlow name (toFlowEach resolve arguments)).value =
        .ok (.named translated types) := by
  cases expansion with
  | component =>
      rw [component_to_flow, if_neg few]
      exact ⟨_, _, rfl⟩
  | reactElement =>
      rcases arguments with _ | ⟨first, _ | ⟨second, _ | ⟨third, more⟩⟩⟩
      · exact ⟨_, _, rfl⟩
      · exact ⟨_, _, rfl⟩
      · exact ⟨_, _, rfl⟩
      · simp at few

section

variable (source : Quote) (name : QualifiedName) (arguments : List TypeExpr)

theorem plain_reference_value (kept : resolve name = none) :
    (toFlow resolve (.reference source name arguments)).value =
      .named name (arguments.map fun t => (t.toFlow resolve).value) := by
  rw [toFlow.eq_def]
  simp [kept, to_flow_all_eq, Converted.each]

theorem substituted_reference_value (s : Substitution)
    (rule : resolve name = some (.substitute s)) :
    (toFlow resolve (.reference source name arguments)).value =
      .named (.bare s.localName) (arguments.map fun t => (t.toFlow resolve).value) := by
  rw [toFlow.eq_def]
  simp [rule, to_flow_all_eq, Converted.each]

theorem expanded_reference_value (expansion : Expansion)
    (rule : resolve name = some (.expand expansion)) :
    (toFlow resolve (.reference source name arguments)).value =
      .orInvalid source (expansion.toFlow name (toFlowEach resolve arguments)).value := by
  rw [toFlow.eq_def]
  simp [rule]

end

theorem to_flow_adds (t : TypeExpr) :
    (t.toFlow resolve).imports = (t.substitution? resolve).toList ++
        (t.converted resolve).flatMap (fun p => (p.toFlow resolve).imports) ∧
      (t.toFlow resolve).diagnostics =
        (t.converted resolve).flatMap (fun p => (p.toFlow resolve).diagnostics) ++
          t.ownDiagnostics := by
  cases t with
  | reference source name arguments =>
      rw [toFlow.eq_def]
      simp only [substitution?, converted, ownDiagnostics]
      cases resolve name with
      | none => simp [convertedArguments, to_flow_all_eq, Converted.each]
      | some rule =>
          cases rule with
          | substitute s =>
              simp [convertedArguments, to_flow_all_eq, Converted.each, Converted.require]
          | expand expansion =>
              obtain ⟨imports, diagnostics⟩ := expansion_to_flow_adds resolve expansion name arguments
              simp [imports, diagnostics]
  | object source properties fault =>
      obtain ⟨_, imports, diagnostics⟩ :=
        (Converted.view_eq_each _ _ _ _).mp (to_flow_properties_types resolve properties)
      cases fault <;>
        simp [toFlow, substitution?, converted, parts, ownDiagnostics, Converted.warn, *]
  | function signature =>
      obtain ⟨_, imports, diagnostics⟩ :=
        (Converted.view_eq_each _ _ _ _).mp (to_flow_signature_types resolve signature)
      simp [toFlow, substitution?, converted, parts, ownDiagnostics, *]
  | union =>
      simp [toFlow, substitution?, converted, parts, ownDiagnostics, to_flow_all_eq, Converted.each]
  | tuple =>
      simp [toFlow, substitution?, converted, parts, ownDiagnostics, to_flow_all_eq, Converted.each]
  | array => simp [toFlow, substitution?, converted, parts, ownDiagnostics]
  | keyword => simp [toFlow, substitution?, converted, parts, ownDiagnostics]
  | literal => simp [toFlow, substitution?, converted, parts, ownDiagnostics]
  | unsupported => simp [toFlow, substitution?, converted, parts, ownDiagnostics]
  | invalid => simp [toFlow, substitution?, converted, parts, ownDiagnostics]

theorem converted_part (t p : TypeExpr) (member : p ∈ t.converted resolve) : p ∈ t.parts := by
  cases t with
  | reference source name arguments =>
      simp only [converted] at member
      unfold convertedArguments at member
      split at member
      · split at member
        · cases member
        · exact member
      · exact member
      · rw [List.mem_singleton.mp member]
        exact List.mem_cons_of_mem _ List.mem_cons_self
      · cases member
      · exact member
  | _ => exact member

theorem kept_converted (t p : TypeExpr) (member : p ∈ t.kept resolve) :
    p ∈ t.converted resolve := by
  unfold kept at member
  split at member
  · cases member
  · exact member

theorem named_parts (name : QualifiedName) (arguments : List FlowType) :
    (FlowType.named name arguments).parts = arguments := by
  cases arguments <;> rfl

theorem invalid_parts (source : Quote) (fault : Fault) :
    (FlowType.invalid source fault).parts = [] := rfl

theorem unsupported_parts (source : Quote) (construct : Construct) :
    (FlowType.unsupported source construct).parts = [] := rfl

theorem expansion_to_flow_parts (expansion : Expansion) (source : Quote) (name : QualifiedName)
    (arguments : List TypeExpr) :
    let c := expansion.toFlow name (toFlowEach resolve arguments)
    let rule := some (.expand expansion)
    (FlowType.orInvalid source c.value).parts =
      match addedArguments resolve rule arguments with
      | [] => (convertedArguments rule arguments).map fun p => (p.toFlow resolve).value
      | added => added := by
  cases expansion with
  | component =>
      rw [component_to_flow]
      cases arguments with
      | nil =>
          simp [addedArguments, Converted.each, FlowType.orInvalid, FlowType.component, named_parts]
      | cons first rest =>
          simp only [convertedArguments, addedArguments]
          by_cases many : 2 < (first :: rest).length
          · rw [if_pos many, if_pos many]
            rfl
          · rw [if_neg many, if_neg many]
            simp [Converted.each, FlowType.orInvalid, FlowType.component, named_parts]
  | reactElement =>
      rcases arguments with _ | ⟨first, _ | ⟨second, _ | ⟨third, more⟩⟩⟩
      · simp [Expansion.toFlow, toFlowEach, addedArguments, FlowType.orInvalid, FlowType.element,
          named_parts]
      · simp [Expansion.toFlow, toFlowEach, addedArguments, FlowType.orInvalid, FlowType.element,
          named_parts]
      · simp [Expansion.toFlow, toFlowEach, convertedArguments, addedArguments, FlowType.orInvalid,
          FlowType.element, named_parts]
      · simp [Expansion.toFlow, toFlowEach, convertedArguments, addedArguments, FlowType.orInvalid,
          invalid_parts]

-- What a rule adds stands where the converted parts of the source would stand.
theorem value_parts (t : TypeExpr) : (t.toFlow resolve).value.parts =
    match t.added resolve with
    | [] => (t.kept resolve).map fun p => (p.toFlow resolve).value
    | added => added := by
  cases t with
  | reference source name arguments =>
      simp only [kept, converted, added]
      cases rule : resolve name with
      | none =>
          rw [plain_reference_value resolve source name arguments rule, named_parts]
          simp [convertedArguments, addedArguments]
      | some found =>
          cases found with
          | substitute s =>
              rw [substituted_reference_value resolve source name arguments s rule, named_parts]
              simp [convertedArguments, addedArguments]
          | expand expansion =>
              rw [expanded_reference_value resolve source name arguments expansion rule]
              exact expansion_to_flow_parts resolve expansion source name arguments
  | object source properties fault =>
      obtain ⟨values, _, _⟩ :=
        (Converted.view_eq_each _ _ _ _).mp (to_flow_properties_types resolve properties)
      cases fault with
      | none => simp [toFlow, kept, converted, parts, added, FlowType.parts, values]
      | some fault => simp [toFlow, kept, added, invalid_parts]
  | function signature =>
      obtain ⟨values, _, _⟩ :=
        (Converted.view_eq_each _ _ _ _).mp (to_flow_signature_types resolve signature)
      simp [toFlow, kept, converted, parts, added, FlowType.parts, values]
  | union =>
      simp [toFlow, kept, converted, parts, added, FlowType.parts, to_flow_all_eq, Converted.each]
  | tuple =>
      simp [toFlow, kept, converted, parts, added, FlowType.parts, to_flow_all_eq, Converted.each]
  | array => simp [toFlow, kept, converted, parts, added, FlowType.parts]
  | keyword => simp [toFlow, kept, converted, parts, added, FlowType.parts]
  | literal => simp [toFlow, kept, converted, parts, added, FlowType.parts]
  | unsupported => simp [toFlow, kept, converted, parts, added, unsupported_parts]
  | invalid => simp [toFlow, kept, converted, parts, added, invalid_parts]

theorem added_parts (t : TypeExpr) (u : FlowType) (member : u ∈ t.added resolve) :
    u.parts = (t.kept resolve).map fun p => (p.toFlow resolve).value := by
  cases t with
  | reference source name arguments =>
      simp only [added, addedArguments] at member
      simp only [kept, converted]
      split at member
      · next rule => simp [List.mem_singleton.mp member, rule, convertedArguments, FlowType.openObject,
          FlowType.parts]
      · next rule => simp [List.mem_singleton.mp member, rule, convertedArguments, FlowType.bare,
          FlowType.parts]
      · next rule => simp [List.mem_singleton.mp member, rule, convertedArguments, named_parts]
      · cases member
  | _ => cases member

theorem occurs_trans (u v w : FlowType) (lower : u.Occurs v) (upper : v.Occurs w) : u.Occurs w := by
  induction upper with
  | here => exact lower
  | inside part whole member _ ih => exact .inside part whole member ih

theorem added_occurs (t : TypeExpr) (u : FlowType) (member : u ∈ t.added resolve) :
    u.Occurs (t.toFlow resolve).value := by
  apply FlowType.Occurs.inside u _ _ .here
  rw [value_parts]
  split
  · next none => rw [none] at member; cases member
  · exact member

theorem kept_occurs (t k : TypeExpr) (member : k ∈ t.kept resolve) :
    (k.toFlow resolve).value.Occurs (t.toFlow resolve).value := by
  have listed := List.mem_map_of_mem (f := fun p => (toFlow resolve p).value) member
  cases added : t.added resolve with
  | nil =>
      apply FlowType.Occurs.inside _ _ _ .here
      rw [value_parts, added]
      exact listed
  | cons u rest =>
      have first : u ∈ t.added resolve := by simp [added]
      apply occurs_trans _ u _ _ (added_occurs resolve t u first)
      apply FlowType.Occurs.inside _ _ _ .here
      rw [added_parts resolve t u first]
      exact listed

theorem origin_occurs (t : TypeExpr) (u : FlowType) (s : Option Substitution)
    (origin : Origin resolve t u s) : u.Occurs (t.toFlow resolve).value := by
  induction origin with
  | value t => exact .here
  | added t u member => exact added_occurs resolve t u member
  | kept t part u s member _ ih => exact occurs_trans _ _ _ ih (kept_occurs resolve t part member)

theorem occurs_origin (u v : FlowType) (occurs : u.Occurs v) :
    (∀ t : TypeExpr, v = (t.toFlow resolve).value → ∃ s, Origin resolve t u s) ∧
      ∀ t : TypeExpr, v ∈ t.added resolve → ∃ s, Origin resolve t u s := by
  induction occurs with
  | here =>
      refine ⟨?_, ?_⟩
      · rintro t rfl
        exact ⟨_, .value t⟩
      · intro t member
        exact ⟨none, .added t u member⟩
  | inside part whole member _ ih =>
      have below (t k : TypeExpr) (listed : k ∈ t.kept resolve)
          (same : part = (k.toFlow resolve).value) : ∃ s, Origin resolve t u s := by
        obtain ⟨s, origin⟩ := ih.1 k same
        exact ⟨s, .kept t k u s listed origin⟩
      refine ⟨?_, ?_⟩
      · rintro t rfl
        rw [value_parts] at member
        split at member
        · obtain ⟨k, listed, same⟩ := List.mem_map.mp member
          exact below t k listed same.symm
        · exact ih.2 t member
      · intro t added
        rw [added_parts resolve t whole added] at member
        obtain ⟨k, listed, same⟩ := List.mem_map.mp member
        exact below t k listed same.symm

end TypeExpr

namespace Content

def types : Content → List TypeExpr
  | .declaration d => d.types
  | _ => []

-- The types that are converted, also where a fault comes after them.
def read : Content → List TypeExpr
  | .abandoned _ _ read => read.flatMap fun v => v.type.toList
  | content => content.types

end Content

variable (resolve : Resolver)

theorem export_statement_types (modifier : ExportModifier) (source : Quote) (s : Statement) :
    (exportStatement modifier source s).value.types = s.types := by
  cases s with
  | declaration d => cases modifier <;> rfl
  | _ => rfl

theorem export_statement_imports (modifier : ExportModifier) (source : Quote) (s : Statement) :
    (exportStatement modifier source s).imports = [] := by
  cases s with
  | declaration d => cases modifier <;> rfl
  | _ => rfl

theorem content_to_flow_types (source : Quote) (content : Content) :
    (content.toFlow resolve source).value.types =
      content.types.map fun t => (t.toFlow resolve).value := by
  cases content with
  | declaration d =>
      obtain ⟨values, _, _⟩ :=
        (Converted.view_eq_each _ _ _ _).mp (declaration_to_flow_types resolve d)
      exact values
  | _ => rfl

theorem content_to_flow_imports (source : Quote) (content : Content) :
    (content.toFlow resolve source).imports =
      content.read.flatMap fun t => (t.toFlow resolve).imports := by
  cases content with
  | declaration d =>
      obtain ⟨_, imports, _⟩ :=
        (Converted.view_eq_each _ _ _ _).mp (declaration_to_flow_types resolve d)
      simp [Content.toFlow, Content.read, Content.types, imports]
  | abandoned fault bound read =>
      obtain ⟨_, imports, _⟩ :=
        (Converted.view_eq_each _ _ _ _).mp (convert_variables_types resolve read)
      simp [Content.toFlow, Content.read, Converted.warn, imports]
  | _ => rfl

theorem statement_to_flow_types (s : SourceStatement) :
    (s.toFlow resolve).value.types = s.content.types.map fun t => (t.toFlow resolve).value := by
  rw [← content_to_flow_types resolve s.node.quote]
  unfold SourceStatement.toFlow
  cases s.exported with
  | none => rfl
  | some modifier => exact export_statement_types modifier s.node.quote _

theorem statement_to_flow_imports (s : SourceStatement) :
    (s.toFlow resolve).imports = s.content.read.flatMap fun t => (t.toFlow resolve).imports := by
  rw [← content_to_flow_imports resolve s.node.quote]
  unfold SourceStatement.toFlow
  cases s.exported with
  | none => simp
  | some modifier => simp [export_statement_imports]

-- A type that a statement's result contains, with the substitution that put it there.
def SourceStatement.Origin (s : SourceStatement) (u : FlowType)
    (substitution : Option Substitution) : Prop :=
  ∃ t ∈ s.content.types, TypeExpr.Origin resolve t u substitution

theorem statement_contains_iff (s : SourceStatement) (u : FlowType) :
    (s.toFlow resolve).value.Contains u ↔ ∃ substitution, s.Origin resolve u substitution := by
  unfold Statement.Contains SourceStatement.Origin
  rw [statement_to_flow_types]
  constructor
  · rintro ⟨v, member, occurs⟩
    obtain ⟨t, listed, same⟩ := List.mem_map.mp member
    obtain ⟨substitution, origin⟩ := (TypeExpr.occurs_origin resolve u v occurs).1 t same.symm
    exact ⟨substitution, t, listed, origin⟩
  · rintro ⟨substitution, t, listed, origin⟩
    exact ⟨_, List.mem_map_of_mem listed, TypeExpr.origin_occurs resolve t u substitution origin⟩

end FlowDefs
