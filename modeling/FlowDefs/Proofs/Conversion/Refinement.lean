import FlowDefs.Conversion.Session
import FlowDefs.Proofs.Lists
import FlowDefs.Proofs.Conversion.Parts
set_option autoImplicit false

namespace FlowDefs

namespace Session

-- Adds the imports that are not there yet, in the order of their first use.
def addImports (imports added : List Substitution) : List Substitution :=
  added.foldl addImport imports

theorem add_imports_eq (imports added : List Substitution) :
    addImports imports added = imports ++ (added.removeAll imports).eraseDups := by
  induction added generalizing imports with
  | nil => simp [addImports, List.removeAll]
  | cons s added ih =>
      have step : addImports imports (s :: added) = addImports (addImport imports s) added := rfl
      rw [step, ih]
      by_cases present : s ∈ imports
      · simp [addImport, present, List.removeAll]
      · have rest : (added.filter fun t => !decide (t ∈ imports ++ [s])) =
            (added.filter fun t => !decide (t ∈ imports)).filter fun t => !t == s := by
          rw [List.filter_filter]
          apply List.filter_congr
          intro t _
          by_cases same : t = s <;> simp [same]
        simp only [addImport, List.contains_eq_mem, present, decide_false, Bool.false_eq_true,
          if_false, List.removeAll, List.append_assoc, List.singleton_append, rest]
        rw [List.filter_cons_of_pos (by simpa using present), List.eraseDups_cons]

theorem add_imports_append (imports first second : List Substitution) :
    addImports imports (first ++ second) = addImports (addImports imports first) second := by
  exact List.foldl_append

theorem add_imports_nil (added : List Substitution) : addImports [] added = added.eraseDups := by
  have kept : added.removeAll [] = added := List.filter_eq_self.mpr fun _ _ => rfl
  rw [add_imports_eq, kept, List.nil_append]

theorem add_imports_erase_dups (imports added : List Substitution) :
    addImports imports added.eraseDups = addImports imports added := by
  rw [add_imports_eq, add_imports_eq]
  simp only [List.removeAll, erase_dups_filter, erase_dups_id _ (erase_dups_nodup added)]

section Absorbing

variable (session : Session)

def absorb {α : Type} (c : Converted α) : Session :=
  { session with
    imports := addImports session.imports c.imports
    diagnostics := session.diagnostics ++ c.diagnostics }

theorem absorb_nothing {α : Type} (x : α) : session.absorb (pure x) = session := by
  simp [absorb, addImports]

theorem absorb_bind {α β : Type} (first : Converted α) (second : α → Converted β) :
    session.absorb (first >>= second) = (session.absorb first).absorb (second first.value) := by
  simp only [absorb, Converted.imports_bind, Converted.diagnostics_bind, add_imports_append,
    List.append_assoc]

end Absorbing

end Session

namespace Conversion

variable {α β : Type}

-- A conversion that looks at the bindings of its session alone, and whose result in any session is
-- the one by itself added to what is there.
def Adds (catalog : Catalog) (m : Conversion α) (c : Resolver → Converted α) : Prop :=
  ∀ session : Session, m session =
    ((c (catalog.resolve session.bindings)).value,
      session.absorb (c (catalog.resolve session.bindings)))

variable (catalog : Catalog)

theorem adds_pure (x : α) : Adds catalog (pure x) fun _ => pure x := by
  intro session
  rw [Session.absorb_nothing]
  rfl

theorem bind_run (m : Conversion α) (f : α → Conversion β) (session : Session) :
    (m >>= f) session = f (m session).1 (m session).2 := rfl

theorem adds_bind {m : Conversion α} {f : α → Conversion β} {c : Resolver → Converted α}
    {g : Resolver → α → Converted β} (first : Adds catalog m c)
    (second : ∀ x, Adds catalog (f x) fun resolve => g resolve x) :
    Adds catalog (m >>= f) fun resolve => c resolve >>= g resolve := by
  intro session
  rw [Session.absorb_bind, bind_run, first session]
  exact second _ _

theorem adds_require (s : Substitution) :
    Adds catalog (require s) fun _ => Converted.require s := by
  intro session
  simp only [Session.absorb, Converted.require, List.append_nil]
  rfl

theorem adds_warn (message : String) (span : Span) :
    Adds catalog (warn message span) fun _ => Converted.warn message span :=
  fun _ => rfl

theorem adds_in_order {γ : Type} (xs : List γ) (f : γ → Conversion α)
    (g : γ → Resolver → Converted α) (each : ∀ x ∈ xs, Adds catalog (f x) (g x)) :
    Adds catalog (inOrder (xs.map f)) fun resolve => inOrder (xs.map fun x => g x resolve) := by
  induction xs with
  | nil => exact adds_pure catalog _
  | cons x xs ih =>
      have rest := ih fun y member => each y (List.mem_cons_of_mem x member)
      exact adds_bind catalog (each x List.mem_cons_self) fun _ =>
        adds_bind catalog rest fun _ => adds_pure catalog _

-- What the conversion of a reference asks of a translation: where the arguments add to any session
-- what they give by themselves, so does the result.
def AddsAs (t : Translation)
    (own : QualifiedName → List (Converted FlowType) → Converted (Except Fault FlowType)) : Prop :=
  ∀ (γ : Type) (xs : List γ) (f : γ → Conversion FlowType) (g : γ → Resolver → Converted FlowType),
    (∀ x ∈ xs, Adds catalog (f x) (g x)) → ∀ name, Adds catalog (t name (xs.map f)) fun resolve =>
      own name (xs.map fun x => g x resolve)

theorem component_adds : AddsAs catalog Translation.component fun name arguments =>
    Expansion.component.toFlow name arguments := by
  intro γ xs f g each name
  simp only [Translation.component, Expansion.toFlow, List.length_map]
  split_ifs
  · exact adds_pure catalog _
  · exact adds_bind catalog (adds_in_order catalog xs f g each) fun _ => adds_pure catalog _

theorem react_element_adds : AddsAs catalog Translation.reactElement fun name arguments =>
    Expansion.reactElement.toFlow name arguments := by
  intro γ xs f g each name
  rcases xs with _ | ⟨first, _ | ⟨second, _ | ⟨third, more⟩⟩⟩
  · exact adds_pure catalog _
  · exact adds_bind catalog (each first (by simp)) fun _ => adds_pure catalog _
  · exact adds_bind catalog (each second (by simp)) fun _ => adds_pure catalog _
  · simp only [Translation.reactElement, Expansion.toFlow, List.map_cons, List.length_cons,
      List.length_map]
    exact adds_pure catalog _

theorem translation_adds (expansion : Expansion) :
    AddsAs catalog expansion.run fun name arguments => expansion.toFlow name arguments := by
  cases expansion with
  | component => exact component_adds catalog
  | reactElement => exact react_element_adds catalog

-- The one place where a conversion looks at its session.
theorem rule_bind (name : QualifiedName) (f : Option Rule → Conversion α) (session : Session) :
    (rule? catalog name >>= f) session = f (catalog.resolve session.bindings name) session :=
  rfl

end Conversion

namespace TypeExpr

open Conversion

variable (catalog : Catalog)

theorem convert_each_eq (ts : List TypeExpr) :
    convertEach catalog ts = ts.map (convert catalog) := by
  induction ts with
  | nil => rfl
  | cons t ts ih => rw [convertEach, ih, List.map_cons]

section

variable (ts : List TypeExpr)
  (each : ∀ t ∈ ts, Adds catalog (convert catalog t) fun resolve => toFlow resolve t)

include each

theorem convert_all_adds : Adds catalog (inOrder (convertEach catalog ts)) fun resolve =>
    inOrder (toFlowEach resolve ts) := by
  simp only [convert_each_eq, to_flow_each_eq]
  exact adds_in_order catalog ts _ _ each

theorem expansion_adds (expansion : Expansion) (name : QualifiedName) :
    Adds catalog (expansion.run name (convertEach catalog ts)) fun resolve =>
      expansion.toFlow name (toFlowEach resolve ts) := by
  simp only [convert_each_eq, to_flow_each_eq]
  exact translation_adds catalog expansion _ ts _ _ each name

end

mutual
theorem convert_adds (t : TypeExpr) :
    Adds catalog (convert catalog t) fun resolve => toFlow resolve t := by
  cases t with
  | keyword word => exact adds_pure catalog _
  | literal value => exact adds_pure catalog _
  | reference source name arguments =>
      have each := convert_each_adds arguments
      intro session
      unfold convert toFlow
      rw [rule_bind]
      dsimp only
      cases catalog.resolve session.bindings name with
      | none =>
          exact adds_bind catalog (convert_all_adds catalog arguments each)
            (fun _ => adds_pure catalog _) session
      | some rule =>
          cases rule with
          | substitute s =>
              exact adds_bind catalog (adds_require catalog s) (fun _ =>
                adds_bind catalog (convert_all_adds catalog arguments each)
                  fun _ => adds_pure catalog _) session
          | expand expansion =>
              exact adds_bind catalog (expansion_adds catalog arguments each expansion name)
                (fun _ => adds_pure catalog _) session
  | union members =>
      exact adds_bind catalog (convert_all_adds catalog members (convert_each_adds members))
        fun _ => adds_pure catalog _
  | array element => exact adds_bind catalog (convert_adds element) fun _ => adds_pure catalog _
  | tuple elements =>
      exact adds_bind catalog (convert_all_adds catalog elements (convert_each_adds elements))
        fun _ => adds_pure catalog _
  | function signature =>
      exact adds_bind catalog (convert_signature_adds signature) fun _ => adds_pure catalog _
  | object source properties fault =>
      simp only [convert, toFlow]
      refine adds_bind catalog (convert_properties_adds properties) fun converted => ?_
      cases fault with
      | none => exact adds_pure catalog _
      | some fault => exact adds_bind catalog (adds_warn catalog _ _) fun _ => adds_pure catalog _
  | unsupported source construct => exact adds_pure catalog _
  | invalid source fault => exact adds_pure catalog _
theorem convert_each_adds (ts : List TypeExpr) :
    ∀ t ∈ ts, Adds catalog (convert catalog t) fun resolve => toFlow resolve t := by
  cases ts with
  | nil => exact List.forall_mem_nil _
  | cons t ts => exact List.forall_mem_cons.mpr ⟨convert_adds t, convert_each_adds ts⟩
theorem convert_option_adds (t : Option TypeExpr) :
    Adds catalog (convertOption catalog t) fun resolve => toFlowOption resolve t := by
  cases t with
  | none => exact adds_pure catalog _
  | some t => exact adds_bind catalog (convert_adds t) fun _ => adds_pure catalog _
theorem convert_signature_adds (s : Signature TypeExpr) :
    Adds catalog (convertSignature catalog s) fun resolve => toFlowSignature resolve s := by
  obtain ⟨typeParams, params, rest, result⟩ := s
  exact adds_bind catalog (convert_type_params_adds typeParams) fun _ =>
    adds_bind catalog (convert_params_adds params) fun _ =>
      adds_bind catalog (convert_rest_adds rest) fun _ =>
        adds_bind catalog (convert_adds result) fun _ => adds_pure catalog _
theorem convert_type_params_adds (params : Option (List (TypeParam TypeExpr))) :
    Adds catalog (convertTypeParams catalog params) fun resolve =>
      toFlowTypeParams resolve params := by
  cases params with
  | none => exact adds_pure catalog _
  | some params =>
      exact adds_bind catalog (convert_type_param_list_adds params) fun _ => adds_pure catalog _
theorem convert_type_param_list_adds (params : List (TypeParam TypeExpr)) :
    Adds catalog (convertTypeParamList catalog params) fun resolve =>
      toFlowTypeParamList resolve params := by
  cases params with
  | nil => exact adds_pure catalog _
  | cons p params =>
      obtain ⟨name, bound, default⟩ := p
      exact adds_bind catalog (convert_option_adds bound) fun _ =>
        adds_bind catalog (convert_option_adds default) fun _ =>
          adds_bind catalog (convert_type_param_list_adds params) fun _ => adds_pure catalog _
theorem convert_param_adds (p : Param TypeExpr) :
    Adds catalog (convertParam catalog p) fun resolve => toFlowParam resolve p := by
  obtain ⟨name, type, optional⟩ := p
  exact adds_bind catalog (convert_adds type) fun _ => adds_pure catalog _
theorem convert_params_adds (params : List (Param TypeExpr)) :
    Adds catalog (convertParams catalog params) fun resolve => toFlowParams resolve params := by
  cases params with
  | nil => exact adds_pure catalog _
  | cons p params =>
      exact adds_bind catalog (convert_param_adds p) fun _ =>
        adds_bind catalog (convert_params_adds params) fun _ => adds_pure catalog _
theorem convert_rest_adds (rest : Option (Param TypeExpr)) :
    Adds catalog (convertRest catalog rest) fun resolve => toFlowRest resolve rest := by
  cases rest with
  | none => exact adds_pure catalog _
  | some p => exact adds_bind catalog (convert_param_adds p) fun _ => adds_pure catalog _
theorem convert_properties_adds (properties : List (Property TypeExpr)) :
    Adds catalog (convertProperties catalog properties) fun resolve =>
      toFlowProperties resolve properties := by
  cases properties with
  | nil => exact adds_pure catalog _
  | cons p properties =>
      obtain ⟨key, value, optional⟩ := p
      exact adds_bind catalog (convert_adds value) fun _ =>
        adds_bind catalog (convert_properties_adds properties) fun _ => adds_pure catalog _
end

end TypeExpr

section

open Conversion

variable (catalog : Catalog)

theorem convert_variables_adds (names : List (Variable TypeExpr)) :
    Adds catalog (Variable.convertAll catalog names) fun resolve =>
      convertVariables resolve names := by
  induction names with
  | nil => exact adds_pure catalog _
  | cons v names ih =>
      exact adds_bind catalog (TypeExpr.convert_option_adds catalog v.type) fun _ =>
        adds_bind catalog ih fun _ => adds_pure catalog _

theorem declaration_adds (d : Declaration TypeExpr) :
    Adds catalog (d.convert catalog) fun resolve => d.toFlow resolve := by
  cases d with
  | vars names =>
      exact adds_bind catalog (convert_variables_adds catalog names) fun _ => adds_pure catalog _
  | typeAlias id typeParams right =>
      exact adds_bind catalog (TypeExpr.convert_type_params_adds catalog typeParams) fun _ =>
        adds_bind catalog (TypeExpr.convert_adds catalog right) fun _ => adds_pure catalog _
  | function id signature =>
      exact adds_bind catalog (TypeExpr.convert_signature_adds catalog signature) fun _ =>
        adds_pure catalog _

theorem with_export_adds (modifier : ExportModifier) (source : Quote) (s : Statement) :
    Adds catalog (s.withExport modifier source) fun _ => exportStatement modifier source s := by
  have warned (message : String) (other : Statement) :
      Adds catalog (do warn message source.span; pure other) fun _ =>
        (do Converted.warn message source.span; pure other) :=
    adds_bind catalog (adds_warn catalog message source.span) fun _ => adds_pure catalog other
  cases s with
  | declaration d => cases modifier <;> exact adds_pure catalog _
  | empty comments => exact adds_pure catalog _
  | importing d => exact warned _ _
  | exportDefault target => exact warned _ _
  | exportNamed d => exact warned _ _

theorem bind_all_run (entries : List (String × Binding)) (session : Session) :
    bindAll entries session =
      ((), { session with bindings := session.bindings.bindAll entries }) := by
  induction entries generalizing session with
  | nil => rfl
  | cons entry entries ih => exact ih { session with bindings := session.bindings.bind entry }

theorem content_convert_eq (source : Quote) (content : Content) (session : Session) :
    content.convert catalog source session =
      let c := content.toFlow (catalog.resolve session.bindings) source
      (c.value, { session.absorb c with
        bindings := session.bindings.bindAll content.bindings }) := by
  cases content with
  | importing d =>
      have run : (Content.importing d).convert catalog source session = (.importing d,
          (bindAll (d.specifiers.map fun s => s.binding d.source) session).2) := rfl
      rw [run, bind_all_run]
      simp only [Content.toFlow, Session.absorb_nothing]
      rfl
  | exportName name => exact adds_pure catalog _ session
  | declaration d =>
      exact adds_bind catalog (declaration_adds catalog d) (fun _ => adds_pure catalog _) session
  | unsupported construct => exact adds_pure catalog _ session
  | rejected fault => exact adds_pure catalog _ session
  | abandoned fault bound read =>
      let first := Variable.convertAll catalog read session
      let description := "internal error: " ++ fault.message
      have run : (Content.abandoned fault bound read).convert catalog source session =
          (.invalid source description, (warn description source.span (bindAll bound first.2).2).2) :=
        rfl
      rw [run, bind_all_run, show first = _ from convert_variables_adds catalog read session]
      simp only [Content.toFlow, Session.absorb_bind, Session.absorb_nothing]
      rfl

theorem statement_convert_eq (s : SourceStatement) (session : Session) :
    s.convert catalog session =
      let c := s.toFlow (catalog.resolve session.bindings)
      (c.value, { session.absorb c with
        bindings := session.bindings.bindAll s.content.bindings }) := by
  have inner := content_convert_eq catalog s.node.quote s.content session
  unfold SourceStatement.convert SourceStatement.toFlow
  cases s.exported with
  | none =>
      rw [bind_run, inner]
      simp only [Session.absorb_bind, Session.absorb_nothing]
      rfl
  | some modifier =>
      rw [bind_run, inner]
      dsimp only
      rw [with_export_adds catalog modifier, Session.absorb_bind]
      rfl

end

namespace Session

variable (catalog : Catalog) (session : Session)

theorem convert_type_eq (type : TypeExpr) :
    session.convertType catalog type =
      let c := type.toFlow (catalog.resolve session.bindings)
      (c.value, session.absorb c) :=
  TypeExpr.convert_adds catalog type session

theorem convert_eq (s : SourceStatement) :
    session.convert catalog s =
      let c := s.toFlow (catalog.resolve session.bindings)
      (c.value, { session.absorb c with
        bindings := session.bindings.bindAll s.content.bindings }) :=
  statement_convert_eq catalog s session

theorem convert_type_value (type : TypeExpr) : (session.convertType catalog type).1 =
    (type.toFlow (catalog.resolve session.bindings)).value :=
  congrArg Prod.fst (convert_type_eq catalog session type)

theorem convert_value (s : SourceStatement) :
    (session.convert catalog s).1 = (s.toFlow (catalog.resolve session.bindings)).value :=
  congrArg Prod.fst (convert_eq catalog session s)

theorem convert_bindings (s : SourceStatement) :
    (session.convert catalog s).2.bindings = session.bindings.bindAll s.content.bindings :=
  congrArg (fun result => result.2.bindings) (convert_eq catalog session s)

theorem convert_imports (s : SourceStatement) : (session.convert catalog s).2.imports =
    addImports session.imports (s.toFlow (catalog.resolve session.bindings)).imports :=
  congrArg (fun result => result.2.imports) (convert_eq catalog session s)

theorem convert_diagnostics (s : SourceStatement) : (session.convert catalog s).2.diagnostics =
    session.diagnostics ++ (s.toFlow (catalog.resolve session.bindings)).diagnostics :=
  congrArg (fun result => result.2.diagnostics) (convert_eq catalog session s)

-- Types one after the other, each in the session that the ones before it left.
def convertTypes (session : Session) : List TypeExpr → List FlowType × Session
  | [] => ([], session)
  | t :: types =>
    let first := session.convertType catalog t
    let rest := convertTypes first.2 types
    (first.1 :: rest.1, rest.2)

theorem convert_types_eq (types : List TypeExpr) :
    session.convertTypes catalog types =
      let c := Converted.each (TypeExpr.toFlow (catalog.resolve session.bindings)) types
      (c.value, session.absorb c) := by
  induction types generalizing session with
  | nil => exact congrArg (Prod.mk []) (session.absorb_nothing []).symm
  | cons t types ih =>
      simp only [convertTypes, ih, convert_type_eq, Converted.each_cons, absorb_bind,
        absorb_nothing]
      rfl

-- A sequence is converted alike where each of its types is.
theorem convert_types_alike (types others : List TypeExpr)
    (alike : types.map (TypeExpr.toFlow (catalog.resolve session.bindings)) =
      others.map (TypeExpr.toFlow (catalog.resolve session.bindings))) :
    session.convertTypes catalog types = session.convertTypes catalog others := by
  have each (ts : List TypeExpr) :
      Converted.each (TypeExpr.toFlow (catalog.resolve session.bindings)) ts =
        Converted.each id (ts.map (TypeExpr.toFlow (catalog.resolve session.bindings))) := by
    simp [Converted.each, List.flatMap_map]
  rw [convert_types_eq, convert_types_eq, each, each, alike]

theorem convert_type_invalid (source : Quote) (fault : Fault) :
    session.convertType catalog (.invalid source fault) =
      (.placeholder source (errorTag fault.message), session) := by
  simp only [convert_type_eq, TypeExpr.toFlow, absorb_nothing]
  rfl

theorem convert_type_union (members : List TypeExpr) :
    session.convertType catalog (.union members) =
      (.union (session.convertTypes catalog members).1,
        (session.convertTypes catalog members).2) := by
  simp only [convert_types_eq, convert_type_eq, TypeExpr.toFlow, TypeExpr.to_flow_all_eq,
    absorb_bind, absorb_nothing]
  rfl

end Session

end FlowDefs
