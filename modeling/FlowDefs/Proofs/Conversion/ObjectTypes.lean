import FlowDefs.Proofs.Conversion.Origin
import FlowDefs.Proofs.Conversion.Refinement
import FlowDefs.Proofs.Lists
import FlowDefs.Proofs.TypeScript.Places
import FlowDefs.Syntax.Outline
set_option autoImplicit false

namespace FlowDefs

open Text

namespace Node

inductive Spells (name : Node) : PropertyKey → Prop where
  | identifier (word : name.construct = .identifier) : Spells name (.identifier name.text)
  | string (value : String) (literal : name.construct = .stringLiteral)
      (decoded : decodeString name.text = some value) : Spells name (.string value name.text)

structure HasKey (m : Node) (key : PropertyKey) : Prop where
  signature : m.construct = .propertySignature
  named : ∃ name, m.field? "name" = some name ∧ name.Spells key

def IsProperty (m : Node) : Prop := ∃ key, m.HasKey key

-- What is said about a member that is no property.
inductive Offence (m : Node) : String → Prop where
  | unsupported (known : m.construct.isUnsupportedMember = true) :
      Offence m ("unimplemented TypeElement kind: " ++ m.construct.name)
  | unexpected (other : m.construct ≠ .propertySignature)
      (unknown : m.construct.isUnsupportedMember = false) :
      Offence m ("unexpected TypeElement kind: " ++ m.describe)
  | nameless (signature : m.construct = .propertySignature) (none : m.field? "name" = none) :
      Offence m "property signature without name"
  | malformed (name : Node) (signature : m.construct = .propertySignature)
      (named : m.field? "name" = some name) (literal : name.construct = .stringLiteral)
      (malformed : decodeString name.text = none) : Offence m "malformed property name"
  | otherName (name : Node) (signature : m.construct = .propertySignature)
      (named : m.field? "name" = some name) (word : name.construct ≠ .identifier)
      (literal : name.construct ≠ .stringLiteral) :
      Offence m ("unimplemented: property name kind: " ++ name.kind)

structure FirstOffence (n : Node) (before : List Node) (m : Node) (reason : String) : Prop where
  split : ∃ after, n.parts = before ++ m :: after
  properties : ∀ b ∈ before, b.IsProperty
  offending : ¬ m.IsProperty
  because : m.Offence reason

-- The annotations of the members that have one.
def annotations (members : List Node) : List TypeExpr :=
  members.filterMap fun m => (m.field? "type").map .ofAnnotated

def refusal (n : Node) (reason : String) : Diagnostic :=
  ⟨"type literal: " ++ reason, some n.span⟩

-- The warning is about this very node.
def Warns (n : Node) (d : Diagnostic) : Prop :=
  n.construct = .typeLiteral ∧ ∃ before m reason, n.FirstOffence before m reason ∧
    d = n.refusal reason

theorem property_key_iff (m : Node) (key : PropertyKey) : m.propertyKey = .ok key ↔
    ∃ name, m.field? "name" = some name ∧ name.Spells key := by
  rw [propertyKey]
  cases found : m.field? "name" with
  | none => simp
  | some name =>
      constructor
      · intro read
        refine ⟨name, rfl, ?_⟩
        dsimp only at read
        split at read
        · next word =>
            cases read
            exact .identifier word
        · next literal =>
            split at read
            · next value decoded =>
                cases read
                exact .string value literal decoded
            · cases read
        · cases read
      · rintro ⟨_, same, spelled⟩
        cases same
        cases spelled with
        | identifier word => simp [word]
        | string value literal decoded => simp [literal, decoded]

theorem property_iff_known (m : Node) : m.IsProperty ↔
    m.construct = .propertySignature ∧ m.propertyKey.isOk = true := by
  constructor
  · rintro ⟨key, known⟩
    exact ⟨known.signature, by rw [(m.property_key_iff key).mpr known.named]; rfl⟩
  · rintro ⟨signature, found⟩
    cases known : m.propertyKey with
    | error fault =>
        rw [known] at found
        cases found
    | ok key => exact ⟨key, signature, (m.property_key_iff key).mp known⟩

end Node

namespace TypeExpr

theorem member_ok_iff (m : Node) (p : Property TypeExpr) : member m = .ok p ↔
    m.HasKey p.key ∧ p.value = (annotated m "type").getD (.keyword .any) ∧
      p.optional = m.hasToken "?" := by
  rw [member]
  by_cases signature : m.construct = .propertySignature
  · rw [if_pos signature]
    constructor
    · intro read
      cases known : m.propertyKey with
      | error fault =>
          rw [known] at read
          cases read
      | ok key =>
          rw [known] at read
          cases read
          exact ⟨⟨signature, (m.property_key_iff key).mp known⟩, rfl, rfl⟩
    · rintro ⟨⟨_, named⟩, value, optional⟩
      rw [(m.property_key_iff p.key).mpr named, ← value, ← optional]
      rfl
  · rw [if_neg signature]
    constructor
    · intro read
      split at read <;> cases read
    · rintro ⟨⟨same, _⟩, _⟩
      exact absurd same signature

theorem property_iff (m : Node) : m.IsProperty ↔ ∃ p, member m = .ok p := by
  constructor
  · rintro ⟨key, known⟩
    exact ⟨⟨key, (annotated m "type").getD (.keyword .any), m.hasToken "?"⟩,
      (member_ok_iff m _).mpr ⟨known, rfl, rfl⟩⟩
  · rintro ⟨p, read⟩
    exact ⟨p.key, ((member_ok_iff m p).mp read).1⟩

theorem member_error (m : Node) (fault : Fault) (read : member m = .error fault) :
    m.Offence fault.message := by
  rw [member] at read
  by_cases signature : m.construct = .propertySignature
  · rw [if_pos signature, Node.propertyKey] at read
    cases found : m.field? "name" with
    | none =>
        rw [found] at read
        cases read
        exact .nameless signature found
    | some name =>
        rw [found] at read
        dsimp only at read
        split at read
        · cases read
        · next literal =>
            split at read
            · cases read
            · next malformed =>
                cases read
                exact .malformed name signature found literal malformed
        · next word literal =>
            cases read
            exact .otherName name signature found word literal
  · rw [if_neg signature] at read
    by_cases known : m.construct.isUnsupportedMember = true
    · rw [if_pos known] at read
      cases read
      exact .unsupported known
    · rw [if_neg known] at read
      cases read
      exact .unexpected signature (Bool.eq_false_iff.mpr known)

theorem properties_read (members : List Node) (properties : List (Property TypeExpr))
    (all : List.Forall₂ (fun m p => member m = .ok p) members properties) :
    ∀ m ∈ members, m.IsProperty := by
  have each := all.imp fun m p read => And.intro ((property_iff m).mpr ⟨p, read⟩) read
  exact ((List.forall₂_and_left _ _).mp each).1

theorem all_members (n : Node) (properties : List (Property TypeExpr))
    (read : untilFault (members n) = (properties, none)) :
    List.Forall₂ (fun m p => member m = .ok p) n.parts properties := by
  rw [members_eq, until_fault_none] at read
  exact read

theorem first_offence (n : Node) (properties : List (Property TypeExpr)) (fault : Fault)
    (read : untilFault (members n) = (properties, some fault)) :
    ∃ before m, n.FirstOffence before m fault.message ∧
      List.Forall₂ (fun m p => member m = .ok p) before properties := by
  rw [members_eq, until_fault_error] at read
  obtain ⟨before, m, after, split, all, faulty⟩ := read
  refine ⟨before, m, ⟨⟨after, split⟩, properties_read before properties all, ?_,
    member_error m fault faulty⟩, all⟩
  rw [property_iff, faulty]
  rintro ⟨p, impossible⟩
  cases impossible

theorem of_object (n : Node) (object : n.construct = .typeLiteral) :
    ofNode n = .object n.quote (untilFault (members n)).1 (untilFault (members n)).2 := by
  rw [of_node_eq, object]
  rfl

theorem no_own_warning (n : Node) (other : n.construct ≠ .typeLiteral) :
    (ofNode n).ownDiagnostics = [] := by
  rw [of_node_eq]
  cases form : n.construct.typeForm with
  | object =>
      have construct : n.construct = .typeLiteral := by
        cases construct : n.construct <;> simp_all [Construct.typeForm]
      exact absurd construct other
  | literal =>
      have reading := of_literal_reading n n (Node.self_mem_nodes n)
      dsimp only
      generalize ofLiteral n = t at reading ⊢
      cases reading <;> rfl
  | array =>
      dsimp only
      cases n.firstPart? <;> rfl
  | reference =>
      dsimp only
      split
      · split <;> rfl
      · rfl
  | _ => rfl

theorem own_warning (n : Node) (d : Diagnostic) (own : d ∈ (ofNode n).ownDiagnostics) :
    n.Warns d := by
  by_cases object : n.construct = .typeLiteral
  · rw [of_object n object] at own
    cases faulty : (untilFault (members n)).2 with
    | none =>
        rw [faulty] at own
        cases own
    | some fault =>
        rw [faulty] at own
        obtain ⟨before, m, offence, -⟩ := first_offence n _ fault (Prod.ext rfl faulty)
        exact ⟨object, before, m, _, offence, List.mem_singleton.mp own⟩
  · rw [no_own_warning n object] at own
    cases own

variable (resolve : Resolver)

-- A type below a node warns only about the nodes there, if each of them does so.
theorem read_warnings (n : Node) (t : TypeExpr) (read : ReadInside n t)
    (below : ∀ c ∈ n.innerNodes, ∀ d ∈ ((ofNode c).toFlow resolve).diagnostics,
      ∃ inner ∈ c.nodes, inner.Warns d) :
    ∀ d ∈ (t.toFlow resolve).diagnostics, ∃ inner ∈ n.innerNodes, inner.Warns d := by
  intro d warned
  cases read with
  | node c inside =>
      obtain ⟨inner, deeper, warns⟩ := below c inside d warned
      obtain ⟨child, listed, upper⟩ := (Node.mem_inner c n).mp inside
      exact ⟨inner, (Node.mem_inner inner n).mpr
        ⟨child, listed, Node.nodes_trans inner c child deeper upper⟩, warns⟩
  | untyped quote fault => cases warned
  | any => cases warned
  | many => cases warned

theorem warnings_inside (n : Node) :
    ∀ d ∈ ((ofNode n).toFlow resolve).diagnostics, ∃ inner ∈ n.nodes, inner.Warns d := by
  induction n using Node.by_inner with
  | step n ih =>
      intro d warned
      rw [(to_flow_adds resolve (ofNode n)).2] at warned
      rcases List.mem_append.mp warned with part | own
      · obtain ⟨t, listed, warned⟩ := List.mem_flatMap.mp part
        have read := part_read n t (converted_part resolve (ofNode n) t listed)
        obtain ⟨inner, inside, warns⟩ := read_warnings resolve n t read ih d warned
        exact ⟨inner, Node.inner_nodes inner n inside, warns⟩
      · exact ⟨n, Node.self_mem_nodes n, own_warning n d own⟩

end TypeExpr

namespace Session

variable (catalog : Catalog) (session : Session)

def convertProperty (p : Property TypeExpr) : Property FlowType :=
  ⟨p.key, (session.convertType catalog p.value).1, p.optional⟩

theorem properties_value (properties : List (Property TypeExpr)) :
    (TypeExpr.toFlowProperties (catalog.resolve session.bindings) properties).value =
      properties.map (session.convertProperty catalog) := by
  induction properties with
  | nil => rfl
  | cons p properties ih =>
      rw [TypeExpr.toFlowProperties, List.map_cons, ← ih, convertProperty, convert_type_value]
      rfl

theorem absorb_properties (properties : List (Property TypeExpr)) :
    session.absorb (TypeExpr.toFlowProperties (catalog.resolve session.bindings) properties) =
      (session.convertTypes catalog (properties.map Property.value)).2 := by
  rw [convert_types_eq, ← TypeExpr.to_flow_properties_types]
  rfl

theorem convert_type_object (source : Quote) (properties : List (Property TypeExpr)) :
    session.convertType catalog (.object source properties none) =
      (.object (properties.map (session.convertProperty catalog)) true false,
        (session.convertTypes catalog (properties.map Property.value)).2) := by
  rw [← absorb_properties, ← properties_value]
  simp only [convert_type_eq, TypeExpr.toFlow, absorb_bind, absorb_nothing]
  rfl

theorem convert_type_faulty (source : Quote) (properties : List (Property TypeExpr))
    (fault : Fault) :
    session.convertType catalog (.object source properties (some fault)) =
      (.placeholder source (errorTag fault.message),
        (session.convertTypes catalog (properties.map Property.value)).2.absorb
          (Converted.warn ("type literal: " ++ fault.message) source.span)) := by
  rw [← absorb_properties]
  simp only [convert_type_eq, TypeExpr.toFlow, absorb_bind, absorb_nothing]
  rfl

theorem convert_annotations (members : List Node) (properties : List (Property TypeExpr))
    (all : List.Forall₂ (fun m p => TypeExpr.member m = .ok p) members properties) :
    (session.convertTypes catalog (properties.map Property.value)).2 =
      (session.convertTypes catalog (Node.annotations members)).2 := by
  induction all generalizing session with
  | nil => rfl
  | @cons m p members properties read all ih =>
      have value := ((TypeExpr.member_ok_iff m p).mp read).2.1
      rw [TypeExpr.annotated_eq] at value
      rw [List.map_cons, Node.annotations, List.filterMap_cons, value]
      cases m.field? "type" with
      | none =>
          have any : (session.convertType catalog (.keyword .any)).2 = session := rfl
          rw [convertTypes]
          dsimp only [Option.map_none, Option.getD_none]
          rw [any]
          exact ih session
      | some annotation => exact ih _

end Session

-- The property that a member is translated to.
structure Node.Becomes (catalog : Catalog) (session : Session) (m : Node)
    (p : Property FlowType) : Prop where
  key : m.HasKey p.key
  optional : p.optional = m.hasToken "?"
  value : p.value = match m.field? "type" with
    | some annotation => (session.convertType catalog (.ofAnnotated annotation)).1
    | none => .primitive .any

section Members

variable (catalog : Catalog) (session : Session)

theorem property_becomes (m : Node) (p : Property TypeExpr) (read : TypeExpr.member m = .ok p) :
    m.Becomes catalog session (session.convertProperty catalog p) := by
  obtain ⟨key, value, optional⟩ := (TypeExpr.member_ok_iff m p).mp read
  refine ⟨key, optional, ?_⟩
  rw [Session.convertProperty, value, TypeExpr.annotated_eq]
  cases m.field? "type" <;> rfl

theorem annotation_warnings (members : List Node) : ∃ nested,
    (session.convertTypes catalog (Node.annotations members)).2.diagnostics =
      session.diagnostics ++ nested ∧
    ∀ d ∈ nested, ∃ b ∈ members, ∃ inner ∈ b.innerNodes, inner.Warns d := by
  rw [Session.convert_types_eq]
  refine ⟨_, rfl, ?_⟩
  intro d warned
  obtain ⟨t, listed, warned⟩ := List.mem_flatMap.mp warned
  obtain ⟨b, member, annotation⟩ := List.mem_filterMap.mp listed
  have read := TypeExpr.annotated_read b "type" (.keyword .any) .any
  rw [TypeExpr.annotated_eq, annotation] at read
  obtain ⟨inner, inside, warns⟩ := TypeExpr.read_warnings _ b t read
    (fun c _ => TypeExpr.warnings_inside _ c) d warned
  exact ⟨b, member, inner, inside, warns⟩

end Members

theorem object_type_whole_or_refused (catalog : Catalog) (session : Session) (n : Node)
    (object : n.construct = .typeLiteral) :
    ((∀ m ∈ n.parts, m.IsProperty) → ∃ properties,
      session.convertType catalog (.ofNode n) = (.object properties true false,
        (session.convertTypes catalog (Node.annotations n.parts)).2) ∧
      List.Forall₂ (Node.Becomes catalog session) n.parts properties) ∧
    ((¬ ∀ m ∈ n.parts, m.IsProperty) → ∃ before m reason nested,
      n.FirstOffence before m reason ∧
      (session.convertType catalog (.ofNode n)).1 =
        .placeholder n.quote ("tsflow-error: " ++ reason) ∧
      (session.convertType catalog (.ofNode n)).2.diagnostics =
        session.diagnostics ++ nested ++ [n.refusal reason] ∧
      (session.convertTypes catalog (Node.annotations before)).2.diagnostics =
        session.diagnostics ++ nested ∧
      ∀ d ∈ nested, ∃ b ∈ before, ∃ inner ∈ b.innerNodes, inner.Warns d) := by
  rw [TypeExpr.of_object n object]
  cases faulty : (untilFault (TypeExpr.members n)).2 with
  | none =>
      have all := TypeExpr.all_members n _ (Prod.ext rfl faulty)
      have whole := TypeExpr.properties_read n.parts _ all
      refine ⟨fun _ => ?_, fun refused => absurd whole refused⟩
      refine ⟨(untilFault (TypeExpr.members n)).1.map (session.convertProperty catalog), ?_, ?_⟩
      · rw [session.convert_type_object, session.convert_annotations catalog n.parts _ all]
      · exact List.forall₂_map_right_iff.mpr (all.imp (property_becomes catalog session))
  | some fault =>
      obtain ⟨before, m, offence, all⟩ := TypeExpr.first_offence n _ fault (Prod.ext rfl faulty)
      obtain ⟨after, split⟩ := offence.split
      have broken : ¬ ∀ m ∈ n.parts, m.IsProperty := fun whole =>
        offence.offending (whole m (by simp [split]))
      obtain ⟨nested, earlier, warnings⟩ := annotation_warnings catalog session before
      refine ⟨fun whole => absurd whole broken, fun _ => ?_⟩
      refine ⟨before, m, fault.message, nested, offence, ?_, ?_, earlier, warnings⟩
      · rw [session.convert_type_faulty]
        rfl
      · rw [session.convert_type_faulty, session.convert_annotations catalog before _ all,
          ← earlier]
        rfl

-- A method, which is no property.
def methodRows (i : Nat) : List Row := [
  ⟨"method_signature", [], true, ⟨i, i + 9⟩, 3⟩,
  ⟨"property_identifier", ["name"], true, ⟨i, i + 1⟩, 0⟩,
  ⟨"formal_parameters", ["parameters"], true, ⟨i + 1, i + 3⟩, 2⟩,
  ⟨"(", [], false, ⟨i + 1, i + 2⟩, 0⟩,
  ⟨")", [], false, ⟨i + 2, i + 3⟩, 0⟩,
  ⟨"type_annotation", ["return_type"], true, ⟨i + 3, i + 9⟩, 2⟩,
  ⟨":", [], false, ⟨i + 3, i + 4⟩, 0⟩,
  ⟨"predefined_type", [], true, ⟨i + 5, i + 9⟩, 1⟩,
  ⟨"void", [], false, ⟨i + 5, i + 9⟩, 0⟩]

-- A property whose value is refused.
def nestedRows : List Row := [
  ⟨"property_signature", [], true, ⟨2, 19⟩, 3⟩,
  ⟨"property_identifier", ["name"], true, ⟨2, 3⟩, 0⟩,
  ⟨"?", [], false, ⟨3, 4⟩, 0⟩,
  ⟨"type_annotation", ["type"], true, ⟨4, 19⟩, 2⟩,
  ⟨":", [], false, ⟨4, 5⟩, 0⟩,
  ⟨"object_type", [], true, ⟨6, 19⟩, 3⟩,
  ⟨"\x7b", [], false, ⟨6, 7⟩, 0⟩] ++ methodRows 8 ++ [
  ⟨"\x7d", [], false, ⟨18, 19⟩, 0⟩]

def wholeSource : String := "\x7b a?: \x7b m(): void \x7d \x7d"

def wholeRows : List Row := [
  ⟨"object_type", [], true, ⟨0, 21⟩, 3⟩,
  ⟨"\x7b", [], false, ⟨0, 1⟩, 0⟩] ++ nestedRows ++ [
  ⟨"\x7d", [], false, ⟨20, 21⟩, 0⟩]

def brokenSource : String := "\x7b a?: \x7b m(): void \x7d; n(): void \x7d"

def brokenRows : List Row := [
  ⟨"object_type", [], true, ⟨0, 32⟩, 5⟩,
  ⟨"\x7b", [], false, ⟨0, 1⟩, 0⟩] ++ nestedRows ++ [
  ⟨";", [], false, ⟨19, 20⟩, 0⟩] ++ methodRows 21 ++ [
  ⟨"\x7d", [], false, ⟨31, 32⟩, 0⟩]

theorem method_refuses_object :
    (∃ literal ∈ Node.ofRows? wholeSource wholeRows, literal.construct = .typeLiteral ∧
      ∃ properties, (Session.start.convertType .empty (.ofNode literal)).1 =
          .object properties true false ∧
        List.Forall₂ (Node.Becomes .empty .start) literal.parts properties) ∧
    ∃ literal ∈ Node.ofRows? brokenSource brokenRows, literal.construct = .typeLiteral ∧
      ∃ before m nested,
        literal.FirstOffence before m "unimplemented TypeElement kind: MethodSignature" ∧
        (Session.start.convertType .empty (.ofNode literal)).2.diagnostics =
          [nested, literal.refusal "unimplemented TypeElement kind: MethodSignature"] ∧
        ∃ b ∈ before, ∃ inner ∈ b.innerNodes, inner.Warns nested := by
  refine ⟨?_, ?_⟩
  · have checks : ((Node.ofRows? wholeSource wholeRows).map fun literal =>
        (literal.construct, literal.parts.all fun m =>
          m.construct = .propertySignature ∧ m.propertyKey.isOk = true)) =
        some (.typeLiteral, true) := by decide +kernel
    obtain ⟨literal, read, checks⟩ := Option.map_eq_some_iff.mp checks
    obtain ⟨object, each⟩ := Prod.mk.inj checks
    have whole : ∀ m ∈ literal.parts, m.IsProperty := fun m part =>
      m.property_iff_known.mpr (of_decide_eq_true (List.all_eq_true.mp each m part))
    obtain ⟨properties, result, all⟩ :=
      (object_type_whole_or_refused .empty .start literal object).1 whole
    exact ⟨literal, read, object, properties, congrArg Prod.fst result, all⟩
  · have checks : ((Node.ofRows? brokenSource brokenRows).map fun literal =>
        (literal.construct, literal.parts.any fun m => m.construct ≠ .propertySignature,
          (Session.start.convertType .empty (.ofNode literal)).2.diagnostics)) =
        some (.typeLiteral, true, [
          ⟨"type literal: unimplemented TypeElement kind: MethodSignature", some ⟨6, 19⟩⟩,
          ⟨"type literal: unimplemented TypeElement kind: MethodSignature", some ⟨0, 32⟩⟩]) := by
      decide +kernel
    obtain ⟨literal, read, checks⟩ := Option.map_eq_some_iff.mp checks
    simp only [Prod.mk.injEq] at checks
    obtain ⟨object, offending, diagnostics⟩ := checks
    have broken : ¬ ∀ m ∈ literal.parts, m.IsProperty := by
      intro whole
      obtain ⟨m, part, other⟩ := List.any_eq_true.mp offending
      obtain ⟨key, known⟩ := whole m part
      exact of_decide_eq_true other known.signature
    obtain ⟨before, m, reason, nested, offence, -, warned, -, warnings⟩ :=
      (object_type_whole_or_refused .empty .start literal object).2 broken
    rw [diagnostics] at warned
    have both : [_] ++ [_] = nested ++ [literal.refusal reason] := warned
    obtain ⟨first, last⟩ := List.append_inj' both rfl
    obtain rfl : nested = [_] := first.symm
    have message := congrArg Diagnostic.message (List.cons.inj last).1
    obtain rfl : "unimplemented TypeElement kind: MethodSignature" = reason :=
      (String.append_right_inj "type literal: ").mp message
    refine ⟨literal, read, object, before, m, _, offence, ?_, warnings _ List.mem_cons_self⟩
    rw [diagnostics, (List.cons.inj last).1]

end FlowDefs
