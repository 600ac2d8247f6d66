import FlowDefs.Proofs.Flow.Fragments
set_option autoImplicit false

namespace FlowDefs

open Text Template

namespace ImportSpecifier

def template : ImportSpecifier → Template
  | .default localName => word localName
  | .wholeModule localName => code "* as " ++ word localName
  | .named imported localName kind =>
    codeIf (kind = some .type) "type " ++ word imported
      ++ (if localName = imported then [] else code " as " ++ word localName)

theorem template_chars (s : ImportSpecifier) : s.template.chars = s.print.toList := by
  cases s with
  | default localName => exact chars_word localName
  | wholeModule localName => simp [template, print]
  | named imported localName kind =>
      simp only [template, print, chars_append, chars_code_if, chars_word, String.toList_append,
        decide_eq_true_eq]
      congr 1
      · split <;> rfl
      · split
        · rfl
        · simp

theorem template_marks (s : ImportSpecifier) : s.template.marks = [] := by
  cases s with
  | named imported localName kind => by_cases same : localName = imported <;> simp [template, same]
  | _ => simp [template]

end ImportSpecifier

namespace ImportDeclaration

def clauseTemplates (d : ImportDeclaration) : List Template :=
  let named := (d.specifiers.filter fun s => s.isNamed).map ImportSpecifier.template
  (d.specifiers.filter fun s => !s.isNamed).map ImportSpecifier.template
    ++ (if named.isEmpty then []
      else [code "\x7b " ++ commaed named ++ code " \x7d"])

def template (d : ImportDeclaration) : Template :=
  code "import " ++ codeIf (d.kind = .type) "type "
    ++ (if d.clauseTemplates.isEmpty then []
      else commaed d.clauseTemplates ++ code " from ")
    ++ quoted d.source ++ code ";"

theorem specifier_chars (specifiers : List ImportSpecifier) :
    specifiers.map (chars ∘ ImportSpecifier.template) =
      specifiers.map (String.toList ∘ ImportSpecifier.print) :=
  List.map_congr_left fun s _ => s.template_chars

theorem clause_chars (d : ImportDeclaration) :
    d.clauseTemplates.map chars = d.clause.map String.toList := by
  simp only [clauseTemplates, clause, List.map_append, List.map_map, specifier_chars, List.isEmpty_map]
  congr 1
  split
  · rfl
  · simp [specifier_chars, join_listing, comma]

theorem template_chars (d : ImportDeclaration) : d.template.chars = d.print.toList := by
  have empty : d.clauseTemplates.isEmpty = d.clause.isEmpty := by
    rw [← List.isEmpty_map (f := chars), clause_chars, List.isEmpty_map]
  rw [template, print, empty]
  by_cases none : d.clause.isEmpty = true
  · cases kind : d.kind <;> simp [none]
  · cases kind : d.kind <;> simp [none, clause_chars, join_listing, comma]

theorem template_marks (d : ImportDeclaration) : d.template.marks = [] := by
  have specifiers (listed : List ImportSpecifier) :
      (listed.map ImportSpecifier.template).flatMap marks = [] := by
    rw [List.flatMap_map]
    exact List.flatMap_eq_nil_iff.mpr fun s _ => s.template_marks
  have clause : d.clauseTemplates.flatMap marks = [] := by
    rw [clauseTemplates, List.flatMap_append, specifiers]
    split
    · rfl
    · simp [specifiers]
  rw [template]
  split <;> simp [clause]

end ImportDeclaration

namespace Declaration

def variableTemplate (position : ExportPosition) (v : Variable FlowType) : Template :=
  code "declare " ++ codeIf (!decide (position = .none)) "export "
    ++ code "var " ++ word v.name ++ ofOption ": " v.type plain_colon
    ++ code ";"

def functionKeyword (position : ExportPosition) : Template :=
  code "declare " ++ codeIf (!decide (position = .none)) "export "
    ++ codeIf (position = .default) "default " ++ code "function "

def template (position : ExportPosition) : Declaration FlowType → Template
  | .vars names =>
    listing (code "\n") (names.map (variableTemplate position))
  | .typeAlias id typeParams right =>
    codeIf (!decide (position = .none)) "export " ++ code "type " ++ word id
      ++ ofTypeParams typeParams ++ code " = " plain_equals ++ hole right ++ code ";"
  | .function id signature =>
    functionKeyword position ++ word id ++ ofSignature ": " signature plain_colon ++ code ";"

theorem variable_chars (position : ExportPosition) (v : Variable FlowType) :
    (variableTemplate position v).chars = (printVariable
      (if position = .none then "declare var " else "declare export var ") v).toList := by
  cases position <;> simp [variableTemplate, printVariable]

theorem template_chars (position : ExportPosition) (d : Declaration FlowType) :
    (d.template position).chars = (d.print position).toList := by
  cases d with
  | vars names =>
      have printed : (vars names).print position = join "\n" (names.map (printVariable
          (if position = .none then "declare var " else "declare export var "))) := rfl
      rw [printed, template, chars_listing, join_listing, List.map_map, List.map_map]
      exact congrArg (listing _) (List.map_congr_left fun v _ => variable_chars position v)
  | typeAlias id typeParams right =>
      have printed : (typeAlias id typeParams right).print position =
          (if position = .none then "" else "export ") ++ "type " ++ id ++
            FlowType.printTypeParams typeParams ++ " = " ++ right.print ++ ";" := rfl
      rw [printed]
      cases position <;> simp [template, FlowType.chars]
  | function id signature =>
      obtain ⟨keyword, spelled, printed⟩ : ∃ keyword : String,
          (functionKeyword position).chars = keyword.toList ∧
            (function id signature).print position =
              keyword ++ id ++ FlowType.printSignature ": " signature ++ ";" := by
        cases position <;> refine ⟨_, ?_, rfl⟩ <;> simp [functionKeyword]
      rw [printed]
      simp [template, spelled]

theorem template_marks (position : ExportPosition) (d : Declaration FlowType) :
    (d.template position).marks = d.types.map .inr := by
  cases d with
  | vars names =>
      have each (v : Variable FlowType) :
          (variableTemplate position v).marks = v.type.toList.map .inr := by simp [variableTemplate]
      rw [template, marks_listing, List.flatMap_map, types, List.map_flatMap]
      exact congrArg names.flatMap (funext each)
  | typeAlias id typeParams right => simp [template, types]
  | function id signature => simp [template, functionKeyword, types]

end Declaration

namespace Statement

def template : Statement → Template
  | .empty comments =>
    leading "\n" comments ++ code ";" ++ trailing comments
  | .importing d => d.template
  | .exportDefault (.identifier name) =>
    code "export default " ++ word name ++ code ";"
  | .exportDefault (.declaration d) => d.template .default
  | .exportNamed d => d.template .named
  | .declaration d => d.template .none

theorem template_chars (s : Statement) : s.template.chars = s.print.toList := by
  cases s with
  | empty comments => simp [template, print]
  | importing d => exact d.template_chars
  | exportDefault target =>
      cases target with
      | identifier name => simp [template, print]
      | declaration d => exact d.template_chars .default
  | exportNamed d => exact d.template_chars .named
  | declaration d => exact d.template_chars .none

theorem template_marks (s : Statement) : s.template.marks =
    (s.comments.filter Comment.isLeading).map .inl ++ s.types.map .inr ++
      (s.comments.filter Comment.isTrailing).map .inl := by
  have declared (position : ExportPosition) (d : Declaration FlowType) :=
    (d.template_marks position).trans (List.append_nil _).symm
  cases s with
  | empty cs => simp [template, Statement.comments, types]
  | importing d => exact d.template_marks
  | exportDefault target =>
      cases target with
      | identifier name => simp [template, Statement.comments, types]
      | declaration d => exact declared .default d
  | exportNamed d => exact declared .named d
  | declaration d => exact declared .none d

structure Settled (s : Statement) : Prop where
  empty : ∀ comments, s = .empty comments → comments.length = 2
  contained : ∀ u, s.Contains u → u.Settled

-- The comments of each placeholder in a statement, itself included, one list a placeholder.
def placeholderComments (s : Statement) : List (List Comment) :=
  (if s.isPlaceholder then [s.comments] else []) ++ s.placeholderTypes.map FlowType.comments

theorem settled_own (s : Statement) (settled : s.Settled) :
    s.comments = [] ∧ s.isPlaceholder = false ∨
      s.types = [] ∧ s.isPlaceholder = true ∧ s.comments.length = 2 := by
  cases s with
  | empty cs => exact .inr ⟨rfl, rfl, settled.empty cs rfl⟩
  | _ => exact .inl ⟨rfl, rfl⟩

theorem template_comments (s : Statement) (settled : s.Settled) :
    s.template.fill.filterMap Fragment.comment? = s.placeholderComments.flatMap printOrder := by
  have types : s.types.flatMap (fun t => t.fragments.filterMap Fragment.comment?) =
      (s.placeholderTypes.map FlowType.comments).flatMap printOrder := by
    rw [List.flatMap_map, placeholderTypes, List.flatMap_assoc]
    apply List.flatMap_congr
    intro t member
    exact t.fragments_comments fun u occurs => settled.contained u ⟨t, member, occurs⟩
  rw [fill_comments, template_marks, placeholderComments, List.flatMap_append, List.flatMap_append,
    List.flatMap_append, List.flatMap_map, List.flatMap_map, List.flatMap_map, ← types]
  rcases s.settled_own settled with ⟨none, other⟩ | ⟨leaf, placeholder, -⟩
  · simp [none, other]
  · simp [leaf, placeholder, printOrder]

theorem placeholder_comments_length (s : Statement) :
    s.placeholderComments.length = s.placeholders := by
  rw [placeholderComments, placeholder_types_length, List.length_append, List.length_map]
  congr 1
  split <;> rfl

theorem two_comments (s : Statement) (settled : s.Settled) :
    ∀ comments ∈ s.placeholderComments, comments.length = 2 := by
  intro comments member
  rcases List.mem_append.mp member with own | inside
  · rcases s.settled_own settled with ⟨-, other⟩ | ⟨-, placeholder, two⟩
    · rw [other] at own
      cases own
    · rw [placeholder, if_pos rfl, List.mem_singleton] at own
      rw [own, two]
  · obtain ⟨u, listed, rfl⟩ := List.mem_map.mp inside
    obtain ⟨t, member, below⟩ := List.mem_flatMap.mp listed
    obtain ⟨occurs, placeholder⟩ := (t.mem_placeholder_types u).mp below
    rcases u.settled_own (settled.contained u ⟨t, member, occurs⟩) with ⟨-, other⟩ | ⟨-, -, two⟩
    · rw [other] at placeholder
      cases placeholder
    · exact two

end Statement

theorem placeholders_of_all_sum (statements : List Statement) :
    Statement.placeholdersOfAll statements = (statements.map Statement.placeholders).sum := by
  induction statements with
  | nil => rfl
  | cons s statements ih =>
      rw [Statement.placeholdersOfAll, ih, List.map_cons, List.sum_cons]

namespace File

def bodyText (file : File) : String := printLines (file.body.map Statement.print)

def bodyTemplate (file : File) : Template :=
  file.body.flatMap fun s => s.template ++ code "\n"

theorem body_chars (file : File) :
    file.bodyTemplate.fill.flatMap Fragment.chars = file.bodyText.toList := by
  rw [fill_chars _ fun u _ => u.fragments_chars, bodyTemplate, bodyText, printLines, chars_concat,
    List.flatMap_map, List.flatMap_map, chars, List.flatMap_assoc]
  apply List.flatMap_congr
  intro s _
  have line : chars (s.template ++ code "\n") = (s.print ++ "\n").toList := by
    rw [chars_append, s.template_chars, chars_code, String.toList_append]
  exact line

theorem body_comments (file : File) (settled : ∀ s ∈ file.body, s.Settled) :
    file.bodyTemplate.fill.filterMap Fragment.comment? =
      (file.body.flatMap Statement.placeholderComments).flatMap printOrder := by
  rw [bodyTemplate, Template.fill, List.flatMap_assoc, List.filterMap_flatMap, List.flatMap_assoc]
  apply List.flatMap_congr
  intro s member
  rw [← s.template_comments (settled s member), List.flatMap_append, List.filterMap_append]
  exact List.append_nil _

theorem body_blocks (file : File) (tokens : ∀ f ∈ file.bodyTemplate.fill, f.Token) :
    blockComments file.bodyText.toList = file.bodyTemplate.fill.flatMap Fragment.blocks := by
  rw [← body_chars]
  exact reads_comments _ _ (reads_flat_map _ _ _ fun f member => f.token_reads (tokens f member))

end File

theorem File.print_body (file : File) :
    file.print = File.print { file with body := [] } ++ file.bodyText := by
  have none : File.printLines [] = "" := rfl
  rw [File.print, File.print, List.map_nil, none, String.append_empty]
  rfl

theorem ConvertedFile.shown_length (converted : ConvertedFile) :
    (converted.file.body.flatMap Statement.placeholderComments).length =
      converted.placeholders := by
  rw [ConvertedFile.placeholders, placeholders_of_all_sum, List.length_flatMap]
  exact congrArg List.sum (List.map_congr_left fun s _ => s.placeholder_comments_length)

theorem blocks_of_quiet (fragments : List Fragment)
    (quiet : ∀ f ∈ fragments, f.Quiet) :
    fragments.flatMap Fragment.blocks =
      (fragments.filterMap Fragment.comment?).map fun c => commentInside c.text := by
  induction fragments with
  | nil => rfl
  | cons f fragments ih =>
      have own := quiet f List.mem_cons_self
      rw [List.flatMap_cons, ih fun g member => quiet g (List.mem_cons_of_mem f member)]
      cases f with
      | number raw =>
          rw [Fragment.blocks, show blockComments raw.toList = [] from own]
          rfl
      | _ => rfl

end FlowDefs
