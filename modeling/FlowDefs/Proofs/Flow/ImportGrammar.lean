import FlowDefs.Proofs.Flow.Tokens
import FlowDefs.Proofs.Text.BlockComments
set_option autoImplicit false

namespace FlowDefs

open Text

def ImportSpecifier.names : ImportSpecifier → List String
  | .default localName => [localName]
  | .wholeModule localName => [localName]
  | .named imported localName _ => [imported, localName]

def ImportDeclaration.names (d : ImportDeclaration) : List String :=
  d.specifiers.flatMap ImportSpecifier.names

namespace Text

def Unbroken (text : String) : Prop := ∀ c ∈ text.toList, isLineTerminator c = false

instance (text : String) : Decidable (Unbroken text) :=
  decidable_of_iff (text.toList.all fun c => !isLineTerminator c) (by simp [Unbroken])

-- The inside of a literal in single quotes: the quotes in it are escaped.
inductive Escaped : List Char → Prop where
  | done : Escaped []
  | plain (c : Char) (cs : List Char) (noMark : c ≠ '\'') (noEscape : c ≠ '\\')
      (rest : Escaped cs) : Escaped (c :: cs)
  | escape (c : Char) (cs : List Char) (rest : Escaped cs) : Escaped ('\\' :: c :: cs)

structure IsLiteral (text : String) (inside : List Char) : Prop where
  quoted : text.toList = '\'' :: inside ++ ['\'']
  escaped : Escaped inside

theorem unbroken_append (left right : String) :
    Unbroken (left ++ right) ↔ Unbroken left ∧ Unbroken right := by
  simp only [Unbroken, String.toList_append, List.forall_mem_append]

theorem unbroken_join (mark : String) (plain : Unbroken mark) (texts : List String)
    (each : ∀ t ∈ texts, Unbroken t) : Unbroken (join mark texts) := by
  induction texts with
  | nil => exact fun c member => nomatch member
  | cons t ts ih =>
      have first : Unbroken t := each t List.mem_cons_self
      cases ts with
      | nil => exact first
      | cons u us =>
          rw [join, unbroken_append, unbroken_append]
          exact ⟨⟨first, plain⟩, ih fun v member => each v (List.mem_cons_of_mem t member)⟩

theorem quoted_escaped (cs : List Char) : Escaped (cs.flatMap quoteChar) := by
  induction cs with
  | nil => exact .done
  | cons c cs ih =>
      rw [List.flatMap_cons, quoteChar]
      split
      · exact .escape c _ ih
      · next plain =>
          rw [not_or] at plain
          exact .plain c _ plain.2 plain.1 ih

theorem quoted_literal (name : String) :
    IsLiteral (quoteModule name) (name.toList.flatMap quoteChar) :=
  ⟨quoted_spelled name, quoted_escaped name.toList⟩

theorem mem_quoted_iff (cs : List Char) (c : Char) (plain : c ≠ '\\') :
    c ∈ cs.flatMap quoteChar ↔ c ∈ cs := by
  have own (d : Char) : c ∈ quoteChar d ↔ c = d := by
    rw [quoteChar]
    split <;> simp [plain]
  simp [List.mem_flatMap, own]

theorem terminator_plain (c : Char) (terminator : isLineTerminator c = true) : c ≠ '\\' := by
  rintro rfl
  cases terminator

theorem quoted_unbroken_iff (name : String) : Unbroken (quoteModule name) ↔ Unbroken name := by
  have inside (c : Char) (terminator : isLineTerminator c = true) :
      c ∈ (quoteModule name).toList ↔ c ∈ name.toList := by
    have noMark : c ≠ '\'' := by
      rintro rfl
      cases terminator
    rw [quoted_spelled, List.mem_append, List.mem_cons, List.mem_singleton,
      mem_quoted_iff _ c (terminator_plain c terminator)]
    simp [noMark]
  constructor
  · intro unbroken c member
    by_contra broken
    exact broken (unbroken c ((inside c (by simpa using broken)).mpr member))
  · intro unbroken c member
    by_contra broken
    exact broken (unbroken c ((inside c (by simpa using broken)).mp member))

end Text

namespace ImportGrammar

def typeWord (typed : Bool) : String := if typed then "type " else ""

section Grammar

variable (IsName : String → Prop)

inductive Entry : String → Prop where
  | plain (typed : Bool) (name : String) (named : IsName name) : Entry (typeWord typed ++ name)
  | renamed (typed : Bool) (name localName : String) (named : IsName name)
      (bound : IsName localName) : Entry (typeWord typed ++ name ++ " as " ++ localName)

inductive Group : String → Prop where
  | default (name : String) (named : IsName name) : Group name
  | wholeModule (name : String) (named : IsName name) : Group ("* as " ++ name)
  | list (entries : List String) (some : entries ≠ []) (each : ∀ e ∈ entries, Entry IsName e) :
      Group ("\x7b " ++ join ", " entries ++ " \x7d")

inductive Import : String → Prop where
  | bare (module : String) (inside : List Char) (literal : IsLiteral module inside)
      (unbroken : Unbroken module) : Import ("import " ++ module ++ ";")
  | clause (typed : Bool) (groups : List String) (module : String) (inside : List Char)
      (some : groups ≠ []) (each : ∀ g ∈ groups, Group IsName g)
      (literal : IsLiteral module inside) (unbroken : Unbroken module) :
      Import ("import " ++ typeWord typed ++ join ", " groups ++ " from " ++ module ++ ";")

end Grammar

section Printing

variable (IsName : String → Prop)

theorem specifier_entry (s : ImportSpecifier) (listed : s.isNamed = true)
    (names : ∀ name ∈ s.names, IsName name) : Entry IsName s.print := by
  cases s with
  | named imported localName kind =>
      have named : IsName imported := names imported (by simp [ImportSpecifier.names])
      have bound : IsName localName := names localName (by simp [ImportSpecifier.names])
      have typed : (if kind = some .type then "type " else "") = typeWord (kind = some .type) := by
        simp [typeWord]
      rw [ImportSpecifier.print, typed]
      by_cases same : localName = imported
      · rw [if_pos same, String.append_empty]
        exact .plain _ imported named
      · rw [if_neg same, ← String.append_assoc]
        exact .renamed _ imported localName named bound
  | _ => cases listed

theorem specifier_group (s : ImportSpecifier) (alone : s.isNamed = false)
    (names : ∀ name ∈ s.names, IsName name) : Group IsName s.print := by
  cases s with
  | default localName => exact .default localName (names localName List.mem_cons_self)
  | wholeModule localName => exact .wholeModule localName (names localName List.mem_cons_self)
  | named _ _ _ => cases alone

theorem clause_groups (d : ImportDeclaration)
    (names : ∀ s ∈ d.specifiers, ∀ name ∈ s.names, IsName name) :
    ∀ g ∈ d.clause, Group IsName g := by
  intro g member
  rw [ImportDeclaration.clause] at member
  rcases List.mem_append.mp member with alone | listed
  · obtain ⟨s, kept, rfl⟩ := List.mem_map.mp alone
    obtain ⟨member, other⟩ := List.mem_filter.mp kept
    exact specifier_group IsName s (by simpa using other) (names s member)
  · split at listed
    · cases listed
    · next some =>
        cases List.mem_singleton.mp listed
        refine .list _ (by simpa using some) ?_
        intro e entry
        obtain ⟨s, kept, rfl⟩ := List.mem_map.mp entry
        obtain ⟨member, named⟩ := List.mem_filter.mp kept
        exact specifier_entry IsName s named (names s member)

theorem clause_empty_iff (d : ImportDeclaration) : d.clause = [] ↔ d.specifiers = [] := by
  constructor
  · intro empty
    obtain ⟨alone, list⟩ := List.append_eq_nil_iff.mp empty
    have named : (d.specifiers.filter fun s => s.isNamed).map ImportSpecifier.print = [] := by
      split at list
      · next none => exact List.isEmpty_iff.mp none
      · cases list
    rw [List.map_eq_nil_iff, List.filter_eq_nil_iff] at alone named
    rw [List.eq_nil_iff_forall_not_mem]
    exact fun s member => alone s member (by simpa using named s member)
  · intro empty
    simp [ImportDeclaration.clause, empty]

theorem print_bare (d : ImportDeclaration) (empty : d.specifiers = []) :
    d.print = "import " ++ typeWord (d.kind = .type) ++ quoteModule d.source ++ ";" := by
  simp [ImportDeclaration.print, (clause_empty_iff d).mpr empty, typeWord]

theorem print_clause (d : ImportDeclaration) (some : d.specifiers ≠ []) :
    d.print = "import " ++ typeWord (d.kind = .type) ++ join ", " d.clause ++ " from " ++
      quoteModule d.source ++ ";" := by
  have filled : d.clause ≠ [] := fun empty => some ((clause_empty_iff d).mp empty)
  simp [ImportDeclaration.print, filled, typeWord, String.append_assoc]

theorem printed_import (d : ImportDeclaration)
    (names : ∀ s ∈ d.specifiers, ∀ name ∈ s.names, IsName name)
    (naming : d.kind = .type → d.specifiers ≠ []) (unbroken : Unbroken d.source) :
    Import IsName d.print := by
  have literal := quoted_literal d.source
  have whole := (quoted_unbroken_iff d.source).mpr unbroken
  by_cases empty : d.specifiers = []
  · have value : d.kind ≠ .type := fun typed => naming typed empty
    rw [print_bare d empty, typeWord, if_neg (by simpa using value), String.append_empty]
    exact .bare _ _ literal whole
  · rw [print_clause d empty]
    exact .clause _ d.clause _ _ (fun none => empty ((clause_empty_iff d).mp none))
      (clause_groups IsName d names) literal whole

end Printing

-- A word on one line, as identifiers are.
structure IsIdentifier (name : String) : Prop where
  word : isWord name = true
  unbroken : Unbroken name

section Exclusion

variable (IsName : String → Prop) (words : ∀ name, IsName name → IsIdentifier name)

include words

theorem entry_unbroken (text : String) (entry : Entry IsName text) : Unbroken text := by
  have start (typed : Bool) : Unbroken (typeWord typed) := by cases typed <;> decide
  cases entry with
  | plain typed name named =>
      rw [unbroken_append]
      exact ⟨start typed, (words name named).unbroken⟩
  | renamed typed name localName named bound =>
      simp only [unbroken_append]
      exact ⟨⟨⟨start typed, (words name named).unbroken⟩, by decide⟩,
        (words localName bound).unbroken⟩

theorem group_unbroken (text : String) (group : Group IsName text) : Unbroken text := by
  cases group with
  | default _ named => exact (words text named).unbroken
  | wholeModule name named =>
      rw [unbroken_append]
      exact ⟨by decide, (words name named).unbroken⟩
  | list entries some each =>
      simp only [unbroken_append]
      exact ⟨⟨by decide, unbroken_join _ (by decide) entries fun e member =>
        entry_unbroken IsName words e (each e member)⟩, by decide⟩

theorem import_unbroken (text : String) (sentence : Import IsName text) : Unbroken text := by
  cases sentence with
  | bare module inside literal unbroken =>
      simp only [unbroken_append]
      exact ⟨⟨by decide, unbroken⟩, by decide⟩
  | clause typed groups module inside some each literal unbroken =>
      have start : Unbroken (typeWord typed) := by cases typed <;> decide
      have clause : Unbroken (join ", " groups) := unbroken_join _ (by decide) groups
        fun g member => group_unbroken IsName words g (each g member)
      simp only [unbroken_append]
      exact ⟨⟨⟨⟨⟨by decide, start⟩, clause⟩, by decide⟩, unbroken⟩, by decide⟩

theorem group_begins (text : String) (group : Group IsName text) :
    ∃ c cs, text.toList = c :: cs ∧ c ≠ '\'' := by
  cases group with
  | default _ named =>
      obtain ⟨c, cs, spelled, -, all⟩ := word_cons text (words text named).word
      refine ⟨c, cs, spelled, ?_⟩
      rintro rfl
      exact absurd (all '\'' List.mem_cons_self) (by decide)
  | wholeModule name named => exact ⟨'*', _, by rw [String.toList_append]; rfl, by decide⟩
  | list entries some each =>
      exact ⟨'\x7b', _, by rw [String.toList_append, String.toList_append]; rfl, by decide⟩

-- Behind a default import stands a mark or a word, never a literal.
theorem type_then_literal (text : String) (group : Group IsName text) (groups : List String)
    (r s : List Char) : text.toList ++ ((groups.flatMap fun g => comma ++ g.toList) ++
      (" from ".toList ++ r)) ≠ "type".toList ++ ([' ', '\''] ++ s) := by
  intro same
  cases group with
  | default _ named =>
      have inside : ∀ c ∈ text.toList, isWordChar c = true := by
        obtain ⟨c, cs, spelled, -, all⟩ := word_cons text (words text named).word
        rw [spelled]
        exact all
      have behind : ∀ c ∈ ((groups.flatMap fun g => comma ++ g.toList) ++
          (" from ".toList ++ r)).head?, isWordChar c = false := by
        cases groups <;> rintro c ⟨⟩ <;> decide
      obtain ⟨-, rest⟩ := run_unique isWordChar text.toList "type".toList _ _ inside
        (List.all_eq_true.mp (by decide)) behind (by rintro c ⟨⟩; decide) same
      cases groups <;> cases rest
  | wholeModule name named =>
      rw [String.toList_append] at same
      cases same
  | list entries some each =>
      rw [String.toList_append, String.toList_append] at same
      cases same

theorem no_typed_literal (text : String) (sentence : Import IsName text) (s : List Char) :
    text.toList ≠ "import ".toList ++ ("type".toList ++ ([' ', '\''] ++ s)) := by
  intro same
  cases sentence with
  | bare module inside literal unbroken =>
      rw [String.toList_append, String.toList_append, List.append_assoc,
        List.append_cancel_left_eq, literal.quoted] at same
      cases same
  | clause typed groups module inside some each literal unbroken =>
      cases groups with
      | nil => exact some rfl
      | cons g groups =>
          have first : Group IsName g := each g List.mem_cons_self
          simp only [String.toList_append, List.append_assoc, List.append_cancel_left_eq,
            join_listing, List.map_cons, listing, List.flatMap_map] at same
          cases typed with
          | false =>
              exact type_then_literal IsName words g first groups (module.toList ++ [';']) s same
          | true =>
              obtain ⟨c, cs, spelled, different⟩ := group_begins IsName words g first
              rw [spelled] at same
              cases same
              exact different rfl

theorem import_printed_only (d : ImportDeclaration) (sentence : Import IsName d.print) :
    (d.kind = .type → d.specifiers ≠ []) ∧ Unbroken d.source := by
  constructor
  · intro typed empty
    have spelled : d.print.toList = "import ".toList ++ ("type".toList ++ ([' ', '\''] ++
        (d.source.toList.flatMap quoteChar ++ ['\'', ';']))) := by
      rw [print_bare d empty, typed]
      simp only [String.toList_append, quoted_spelled, List.append_assoc]
      simp [typeWord]
    exact no_typed_literal IsName words d.print sentence _ spelled
  · have whole : Unbroken d.print := import_unbroken IsName words d.print sentence
    rw [← quoted_unbroken_iff]
    by_cases empty : d.specifiers = []
    · rw [print_bare d empty, unbroken_append, unbroken_append] at whole
      exact whole.1.2
    · rw [print_clause d empty, unbroken_append, unbroken_append] at whole
      exact whole.1.2

end Exclusion

end ImportGrammar

end FlowDefs
