import FlowDefs.Proofs.Lists
import FlowDefs.TypeScript.Statement
set_option autoImplicit false

namespace FlowDefs

-- A part of the clause that stands alone, or an entry of a list in braces.
inductive ClausePlace where
  | part (node : Node)
  | entry (node : Node)

namespace Node

def clausePlaces (clause : Node) : List ClausePlace :=
  clause.parts.flatMap fun part =>
    if part.kind = "named_imports" then part.parts.map .entry else [.part part]

def entryKind (n : Node) : Option ImportKind := if n.hasToken "type" then some .type else none

end Node

namespace ClausePlace

inductive Names : ClausePlace → ImportSpecifier → Prop where
  | default (n : Node) (kind : n.kind = "identifier") : Names (.part n) (.default n.text)
  | wholeModule (n name : Node) (kind : n.kind = "namespace_import")
      (first : n.firstPart? = some name) : Names (.part n) (.wholeModule name.text)
  | plain (n name : Node) (named : n.field? "name" = some name) (only : n.field? "alias" = none) :
      Names (.entry n) (.named name.text name.text n.entryKind)
  | renamed (n name localName : Node) (named : n.field? "name" = some name)
      (renamed : n.field? "alias" = some localName) :
      Names (.entry n) (.named name.text localName.text n.entryKind)

inductive Refuses : ClausePlace → Fault → Prop where
  | unexpected (n : Node) (noDefault : n.kind ≠ "identifier")
      (noModule : n.kind ≠ "namespace_import") : Refuses (.part n) (.unexpectedImportPart n.kind)
  | namelessModule (n : Node) (kind : n.kind = "namespace_import")
      (nameless : n.firstPart? = none) : Refuses (.part n) .namelessModuleImport
  | nameless (n : Node) (nameless : n.field? "name" = none) : Refuses (.entry n) .namelessImport

def read : ClausePlace → Except Fault ImportSpecifier
  | .part n =>
    if n.kind = "identifier" then .ok (.default n.text)
    else if n.kind = "namespace_import" then
      match n.firstPart? with
      | some name => .ok (.wholeModule name.text)
      | none => .error .namelessModuleImport
    else .error (.unexpectedImportPart n.kind)
  | .entry n => Content.namedSpecifier n

theorem read_of_names (place : ClausePlace) (s : ImportSpecifier) (names : place.Names s) :
    place.read = .ok s := by
  cases names with
  | default n kind => exact if_pos kind
  | wholeModule n name kind first =>
      have noDefault : n.kind ≠ "identifier" := by rw [kind]; decide
      rw [read, if_neg noDefault, if_pos kind, first]
  | plain n name named only =>
      rw [read, Content.namedSpecifier, named, only]
      rfl
  | renamed n name localName named renamed =>
      rw [read, Content.namedSpecifier, named, renamed]
      rfl

theorem read_of_refuses (place : ClausePlace) (fault : Fault) (refuses : place.Refuses fault) :
    place.read = .error fault := by
  cases refuses with
  | unexpected n noDefault noModule => rw [read, if_neg noDefault, if_neg noModule]
  | namelessModule n kind nameless =>
      have noDefault : n.kind ≠ "identifier" := by rw [kind]; decide
      rw [read, if_neg noDefault, if_pos kind, nameless]
  | nameless n nameless => rw [read, Content.namedSpecifier, nameless]

theorem names_or_refuses (place : ClausePlace) :
    (∃ s, place.Names s) ∨ ∃ fault, place.Refuses fault := by
  cases place with
  | part n =>
      by_cases default : n.kind = "identifier"
      · exact .inl ⟨_, .default n default⟩
      · by_cases module : n.kind = "namespace_import"
        · cases first : n.firstPart? with
          | some name => exact .inl ⟨_, .wholeModule n name module first⟩
          | none => exact .inr ⟨_, .namelessModule n module first⟩
        · exact .inr ⟨_, .unexpected n default module⟩
  | entry n =>
      cases named : n.field? "name" with
      | none => exact .inr ⟨_, .nameless n named⟩
      | some name =>
          cases renamed : n.field? "alias" with
          | none => exact .inl ⟨_, .plain n name named renamed⟩
          | some localName => exact .inl ⟨_, .renamed n name localName named renamed⟩

theorem read_ok_iff (place : ClausePlace) (s : ImportSpecifier) :
    place.read = .ok s ↔ place.Names s := by
  refine ⟨fun read => ?_, place.read_of_names s⟩
  rcases place.names_or_refuses with ⟨t, names⟩ | ⟨fault, refuses⟩
  · cases (place.read_of_names t names).symm.trans read
    exact names
  · cases (place.read_of_refuses fault refuses).symm.trans read

theorem read_error_iff (place : ClausePlace) (fault : Fault) :
    place.read = .error fault ↔ place.Refuses fault := by
  refine ⟨fun read => ?_, place.read_of_refuses fault⟩
  rcases place.names_or_refuses with ⟨t, names⟩ | ⟨other, refuses⟩
  · cases (place.read_of_names t names).symm.trans read
  · cases (place.read_of_refuses other refuses).symm.trans read
    exact refuses

end ClausePlace

theorem part_places (part : Node) : Content.specifiers part =
    (if part.kind = "named_imports" then part.parts.map ClausePlace.entry
      else [.part part]).map ClausePlace.read := by
  unfold Content.specifiers
  split
  case h_1 kind => simp [kind, ClausePlace.read]
  case h_2 kind => cases first : part.firstPart? <;> simp [kind, first, ClausePlace.read]
  case h_3 kind => simp [kind, ClausePlace.read, Function.comp_def]
  case h_4 kind noDefault noModule noList =>
    rw [if_neg noList, List.map_singleton, ClausePlace.read, if_neg noDefault, if_neg noModule]

theorem clause_places (clause : Node) :
    clause.parts.flatMap Content.specifiers = clause.clausePlaces.map ClausePlace.read := by
  rw [Node.clausePlaces, List.map_flatMap]
  exact congrArg clause.parts.flatMap (funext part_places)

theorem clause_read_iff (clause : Node) (specifiers : List ImportSpecifier) :
    untilFault (clause.parts.flatMap Content.specifiers) = (specifiers, none) ↔
      List.Forall₂ ClausePlace.Names clause.clausePlaces specifiers := by
  rw [clause_places, until_fault_none]
  simp only [ClausePlace.read_ok_iff]

theorem clause_refused_iff (clause : Node) (specifiers : List ImportSpecifier) (fault : Fault) :
    untilFault (clause.parts.flatMap Content.specifiers) = (specifiers, some fault) ↔
      ∃ before place after, clause.clausePlaces = before ++ place :: after ∧
        List.Forall₂ ClausePlace.Names before specifiers ∧ place.Refuses fault := by
  rw [clause_places, until_fault_error]
  simp only [ClausePlace.read_ok_iff, ClausePlace.read_error_iff]

end FlowDefs
