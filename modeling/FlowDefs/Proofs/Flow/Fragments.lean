import FlowDefs.Proofs.Flow.Layout
import FlowDefs.Proofs.Flow.Placeholders
import FlowDefs.Proofs.Text.BlockComments
import Mathlib.Data.List.Basic
set_option autoImplicit false

namespace FlowDefs

open Text

-- What printed text is put together from.
inductive Fragment where
  -- Words and signs of the printer: no comment or string begins in them.
  | code (text : String) (plain : Plain text.toList)
  -- A name, a key or a literal as it stands in the source.
  | word (text : String)
  -- Between its sign and its digits a number may hold comments.
  | number (raw : String)
  | quoted (module : String)
  | comment (comment : Comment)

namespace Fragment

def chars : Fragment → List Char
  | code text _ => text.toList
  | word text => text.toList
  | number raw => raw.toList
  | quoted module => (quoteModule module).toList
  | comment c => c.print.toList

def comment? : Fragment → Option Comment
  | comment c => some c
  | _ => none

-- The block comments inside.
def blocks : Fragment → List (List Char)
  | number raw => blockComments raw.toList
  | comment c => [commentInside c.text]
  | _ => []

-- Text of the source that is a whole token: a word holds no comment and closes its quotes, a number
-- ends outside of comments.
def Token : Fragment → Prop
  | word text => Plain text.toList
  | number raw => (scan .code raw.toList).1 = .code
  | _ => True

instance (f : Fragment) : Decidable f.Token := by
  cases f <;> unfold Token <;> infer_instance

-- No comment between the sign and the digits of a number.
def Quiet : Fragment → Prop
  | number raw => blockComments raw.toList = []
  | _ => True

instance (f : Fragment) : Decidable f.Quiet := by
  cases f <;> unfold Quiet <;> infer_instance

theorem token_reads (f : Fragment) (token : f.Token) : Reads f.chars f.blocks := by
  cases f with
  | code text plain => exact plain
  | word text => exact token
  | number raw => exact Prod.ext token rfl
  | quoted module => exact plain_quoted_module module
  | comment c => exact reads_block_comment c.text

end Fragment

-- The text of a type or statement with holes for the types in it.
abbrev Template := List (Fragment ⊕ FlowType)

namespace Template

def code (text : String) (plain : Plain text.toList := by decide) : Template :=
  [.inl (.code text plain)]

def word (text : String) : Template := [.inl (.word text)]

def quoted (module : String) : Template := [.inl (.quoted module)]

def hole (t : FlowType) : Template := [.inr t]

-- Either nothing or a text of the printer.
def codeIf (shown : Bool) (text : String) (plain : Plain text.toList := by decide) : Template :=
  if shown then code text plain else []

def commaed (items : List Template) : Template := listing (code ", ") items

def leading (mark : String) (comments : List Comment) (plain : Plain mark.toList := by decide) :
    Template :=
  (comments.filter Comment.isLeading).flatMap fun c => .inl (.comment c) :: code mark plain

def trailing (comments : List Comment) : Template :=
  (comments.filter Comment.isTrailing).flatMap fun c => code " " ++ [.inl (.comment c)]

def ofLiteral : Literal → Template
  | .null => code "null"
  | .number _ raw => [.inl (.number raw)]
  | value => word value.text

def ofName (name : QualifiedName) : Template :=
  listing (code ".") (name.segments.map word)

def ofArguments : Option (List FlowType) → Template
  | none => []
  | some types => code "<" ++ commaed (types.map hole) ++ code ">"

def ofMember (t : FlowType) : Template :=
  codeIf t.isFunction "(" ++ hole t ++ codeIf t.isFunction ")"

def ofOption (mark : String) (t : Option FlowType) (plain : Plain mark.toList := by decide) :
    Template :=
  match t with
  | none => []
  | some t => code mark plain ++ hole t

theorem plain_colon : Plain ": ".toList := by decide

theorem plain_equals : Plain " = ".toList := by decide

def ofTypeParam (p : TypeParam FlowType) : Template :=
  word p.name ++ ofOption ": " p.bound plain_colon ++ ofOption " = " p.default plain_equals

def ofTypeParams : Option (List (TypeParam FlowType)) → Template
  | none => []
  | some params =>
    code "<" ++ commaed (params.map ofTypeParam) ++ code ">"

def labelled (label : String) (optional : Bool) (t : FlowType) : Template :=
  word label ++ codeIf optional "?" ++ code ": " plain_colon ++ hole t

def ofParam (p : Param FlowType) : Template :=
  match p.name with
  | none => hole p.type
  | some name => labelled name p.optional p.type

def ofSignature (arrow : String) (s : Signature FlowType)
    (plain : Plain arrow.toList := by decide) : Template :=
  let rest := s.rest.toList.map fun p => code "..." ++ ofParam p
  ofTypeParams s.typeParams ++ code "(" ++ commaed (s.params.map ofParam ++ rest)
    ++ code ")" ++ code arrow plain ++ hole s.result

def ofProperty (p : Property FlowType) : Template := labelled p.key.text p.optional p.value

def ofObject (properties : List (Property FlowType)) (exact inexact : Bool) : Template :=
  let padding := codeIf (!properties.isEmpty) " "
  code "\x7b" ++ codeIf exact "|" ++ padding
    ++ commaed (properties.map ofProperty ++ if inexact then [code "..."] else [])
    ++ padding ++ codeIf exact "|" ++ code "\x7d"

end Template

namespace FlowType

open Template

def template : FlowType → Template
  | primitive word => code word.text (by cases word <;> decide)
  | literal value => ofLiteral value
  | reference name arguments comments =>
    leading " " comments ++ ofName name ++ ofArguments arguments ++ trailing comments
  | union members => listing (code " | ") (members.map ofMember)
  | array element => code "Array<" ++ hole element ++ code ">"
  | tuple elements => code "[" ++ commaed (elements.map hole) ++ code "]"
  | function signature => ofSignature " => " signature
  | object properties exact inexact => ofObject properties exact inexact

end FlowType

namespace Template

-- The comments and the holes, in order.
def marks (template : Template) : List (Comment ⊕ FlowType) :=
  template.flatMap fun x => x.elim (fun f => f.comment?.toList.map .inl) fun t => [.inr t]

section Marks

@[simp] theorem marks_nil : marks [] = [] := rfl

@[simp] theorem marks_append (f g : Template) : marks (f ++ g) = f.marks ++ g.marks :=
  List.flatMap_append

@[simp] theorem marks_code (text : String) (plain : Plain text.toList) :
    (code text plain).marks = [] := rfl

@[simp] theorem marks_word (text : String) : (word text).marks = [] := rfl

@[simp] theorem marks_quoted (module : String) : (quoted module).marks = [] := rfl

@[simp] theorem marks_hole (t : FlowType) : (hole t).marks = [.inr t] := rfl

@[simp] theorem marks_code_if (shown : Bool) (text : String) (plain : Plain text.toList) :
    (codeIf shown text plain).marks = [] := by cases shown <;> rfl

theorem marks_listing (text : String) (plain : Plain text.toList) (items : List Template) :
    marks (listing (code text plain) items) = items.flatMap marks := by
  rw [marks, flat_map_listing]
  exact (listing_nil _).trans (List.flatMap_def ..).symm

@[simp] theorem marks_commaed (items : List Template) : (commaed items).marks = items.flatMap marks :=
  marks_listing ", " _ items

@[simp] theorem marks_leading (mark : String) (plain : Plain mark.toList)
    (comments : List Comment) :
    (leading mark comments plain).marks = (comments.filter Comment.isLeading).map .inl := by
  rw [leading, marks, List.flatMap_assoc, List.map_eq_flatMap]
  rfl

@[simp] theorem marks_trailing (comments : List Comment) :
    (trailing comments).marks = (comments.filter Comment.isTrailing).map .inl := by
  rw [trailing, marks, List.flatMap_assoc, List.map_eq_flatMap]
  rfl

@[simp] theorem marks_literal (value : Literal) : (ofLiteral value).marks = [] := by
  cases value <;> rfl

@[simp] theorem marks_name (name : QualifiedName) : (ofName name).marks = [] := by
  rw [ofName, marks_listing, List.flatMap_map]
  exact List.flatMap_eq_nil_iff.mpr fun _ _ => rfl

theorem marks_each {α : Type} (f : α → Template) (g : α → FlowType)
    (each : ∀ x, (f x).marks = [.inr (g x)]) (xs : List α) :
    (xs.map f).flatMap marks = (xs.map g).map .inr := by
  induction xs with
  | nil => rfl
  | cons x xs ih => simp [each, ih]

@[simp] theorem marks_holes (types : List FlowType) :
    (types.map hole).flatMap marks = types.map .inr := by
  rw [marks_each hole id marks_hole, List.map_id]

@[simp] theorem marks_arguments (arguments : Option (List FlowType)) :
    (ofArguments arguments).marks = (arguments.getD []).map .inr := by
  cases arguments <;> simp [ofArguments]

@[simp] theorem marks_option (mark : String) (plain : Plain mark.toList) (t : Option FlowType) :
    (ofOption mark t plain).marks = t.toList.map .inr := by
  cases t <;> simp [ofOption]

@[simp] theorem marks_type_params (params : Option (List (TypeParam FlowType))) :
    (ofTypeParams params).marks = (typesOfParams params).map .inr := by
  cases params with
  | none => rfl
  | some params =>
      simp [ofTypeParams, typesOfParams, ofTypeParam, TypeParam.types, List.flatMap_map,
        List.map_flatMap]

@[simp] theorem marks_param (p : Param FlowType) : (ofParam p).marks = [.inr p.type] := by
  unfold ofParam
  split <;> simp [labelled]

@[simp] theorem marks_signature (arrow : String) (plain : Plain arrow.toList)
    (s : Signature FlowType) : (ofSignature arrow s plain).marks = s.types.map .inr := by
  have params := marks_each ofParam Param.type marks_param s.params
  have rest := marks_each (fun p => code "..." ++ ofParam p) Param.type
    (fun p => by simp) s.rest.toList
  simp only [ofSignature, marks_append, marks_type_params, marks_code, marks_commaed,
    List.flatMap_append, params, rest, marks_hole, Signature.types, List.map_append]
  simp

@[simp] theorem marks_object (properties : List (Property FlowType)) (exact inexact : Bool) :
    (ofObject properties exact inexact).marks = (properties.map Property.value).map .inr := by
  have rest : (if inexact then [code "..."] else []).flatMap marks = [] := by
    cases inexact <;> rfl
  have values := marks_each ofProperty Property.value (fun p => by simp [ofProperty, labelled])
    properties
  simp [ofObject, rest, values]

end Marks

-- The text with the texts of types in the holes.
def chars (template : Template) : List Char :=
  template.flatMap fun x => x.elim Fragment.chars FlowType.chars

section Chars

@[simp] theorem chars_append (f g : Template) : chars (f ++ g) = f.chars ++ g.chars :=
  List.flatMap_append

@[simp] theorem chars_code (text : String) (plain : Plain text.toList) :
    (code text plain).chars = text.toList := List.append_nil _

@[simp] theorem chars_word (text : String) : (word text).chars = text.toList := List.append_nil _

@[simp] theorem chars_quoted (module : String) :
    (quoted module).chars = (quoteModule module).toList := List.append_nil _

@[simp] theorem chars_hole (t : FlowType) : (hole t).chars = t.chars := List.append_nil _

@[simp] theorem chars_code_if (shown : Bool) (text : String) (plain : Plain text.toList) :
    (codeIf shown text plain).chars = if shown then text.toList else [] := by
  cases shown
  · rfl
  · exact chars_code text plain

theorem chars_listing (text : String) (plain : Plain text.toList) (items : List Template) :
    chars (listing (code text plain) items) = listing text.toList (items.map chars) := by
  rw [chars, flat_map_listing]
  exact congrArg (listing · _) (chars_code text plain)

@[simp] theorem chars_commaed (items : List Template) :
    (commaed items).chars = listing comma (items.map chars) := chars_listing ", " _ items

theorem chars_concat (texts : List String) :
    (concat texts).toList = texts.flatMap String.toList := by
  rw [concat, join_listing, String.toList_empty, listing_nil, List.flatMap_def]

@[simp] theorem chars_leading (mark : String) (plain : Plain mark.toList)
    (comments : List Comment) :
    (leading mark comments plain).chars = (printBefore mark comments).toList := by
  rw [leading, chars, List.flatMap_assoc, printBefore, chars_concat, List.flatMap_map]
  congr 1
  funext c
  simp [code, Fragment.chars]

@[simp] theorem chars_trailing (comments : List Comment) :
    (trailing comments).chars = (printAfter comments).toList := by
  rw [trailing, chars, List.flatMap_assoc, printAfter, chars_concat, List.flatMap_map]
  congr 1
  funext c
  simp [code, Fragment.chars]

@[simp] theorem chars_literal (value : Literal) : (ofLiteral value).chars = value.text.toList := by
  cases value <;> exact List.append_nil _

@[simp] theorem chars_name (name : QualifiedName) : (ofName name).chars = name.text.toList := by
  rw [ofName, chars_listing, QualifiedName.text, join_listing, List.map_map]
  congr 1
  exact List.map_congr_left fun s _ => chars_word s

@[simp] theorem chars_holes (types : List FlowType) :
    types.map (chars ∘ hole) = types.map FlowType.chars :=
  List.map_congr_left fun t _ => chars_hole t

@[simp] theorem chars_arguments (arguments : Option (List FlowType)) :
    (ofArguments arguments).chars = (FlowType.printArguments arguments).toList := by
  cases arguments with
  | none => rfl
  | some types => simp [ofArguments, FlowType.printArguments, FlowType.listing_all]

theorem chars_member (t : FlowType) : (ofMember t).chars = t.memberChars := by
  rw [ofMember, FlowType.memberChars]
  cases t.isFunction <;> simp

@[simp] theorem chars_option (mark : String) (plain : Plain mark.toList) (t : Option FlowType) :
    (ofOption mark t plain).chars = (FlowType.printOption mark t).toList := by
  cases t with
  | none => rfl
  | some t => simp [ofOption, FlowType.printOption, FlowType.chars]

@[simp] theorem chars_type_params (params : Option (List (TypeParam FlowType))) :
    (ofTypeParams params).chars = (FlowType.printTypeParams params).toList := by
  rw [FlowType.type_params_chars_eq]
  cases params with
  | none => rfl
  | some params =>
      have each (p : TypeParam FlowType) : (ofTypeParam p).chars = FlowType.typeParamChars p := by
        simp [ofTypeParam, FlowType.typeParamChars, FlowType.option_chars_eq]
      simp [ofTypeParams, FlowType.typeParamsChars, Function.comp_def, each]

theorem chars_labelled (label : String) (optional : Bool) (t : FlowType) :
    (labelled label optional t).chars =
      label.toList ++ (FlowType.markChars optional ++ t.chars) := by
  cases optional <;> simp [labelled, FlowType.markChars]

theorem chars_param (p : Param FlowType) : (ofParam p).chars = FlowType.paramChars p := by
  obtain ⟨name, type, optional⟩ := p
  cases name with
  | none => exact chars_hole type
  | some name => exact chars_labelled name optional type

@[simp] theorem chars_signature (arrow : String) (plain : Plain arrow.toList)
    (s : Signature FlowType) :
    (ofSignature arrow s plain).chars = (FlowType.printSignature arrow s).toList := by
  have items : (s.params.map ofParam ++
      s.rest.toList.map fun p => code "..." ++ ofParam p).map chars =
      s.items.map FlowType.itemChars := by
    simp [Signature.items, Function.comp_def, chars_param, FlowType.itemChars]
  rw [FlowType.signature_chars_eq, ← FlowType.type_params_chars_eq]
  simp only [ofSignature, chars_append, chars_type_params, chars_code, chars_commaed, items,
    chars_hole]
  simp

theorem chars_object (properties : List (Property FlowType)) (exact inexact : Bool) :
    (ofObject properties exact inexact).chars =
      (FlowType.object properties exact inexact).chars := by
  have entries : (properties.map ofProperty ++
      if inexact then [code "..."] else []).map chars =
      (FlowType.entries properties inexact).map FlowType.entryChars := by
    cases inexact <;> simp [FlowType.entries, Function.comp_def, ofProperty, chars_labelled,
      FlowType.entryChars, FlowType.propertyChars]
  rw [FlowType.chars_object]
  simp only [ofObject, chars_append, chars_code, chars_code_if, chars_commaed, entries]
  cases exact <;> simp [FlowType.padding, FlowType.closeChars]

end Chars

end Template

namespace FlowType

theorem chars_union_listing (members : List FlowType) :
    (union members).chars = listing bar (members.map memberChars) := by
  cases members with
  | nil => rfl
  | cons m ms => rw [chars_union, List.map_cons, listing, List.flatMap_map]

-- Leading comments, the parts in order, trailing comments.
theorem template_marks (t : FlowType) : t.template.marks =
    (t.comments.filter Comment.isLeading).map .inl ++ t.parts.map .inr ++
      (t.comments.filter Comment.isTrailing).map .inl := by
  cases t with
  | union members =>
      rw [template, Template.marks_listing,
        Template.marks_each Template.ofMember id fun t => by simp [Template.ofMember]]
      simp [comments, parts]
  | _ => simp [template, comments, parts]

theorem template_chars (t : FlowType) : t.template.chars = t.chars := by
  cases t with
  | primitive word => exact Template.chars_code _ _
  | literal value => exact Template.chars_literal value
  | reference name arguments comments => simp [template, chars, print]
  | union members =>
      rw [template, Template.chars_listing, chars_union_listing, List.map_map]
      congr 1
      exact List.map_congr_left fun t _ => Template.chars_member t
  | array element => simp [template, chars_array]
  | tuple elements => simp [template, chars_tuple]
  | function s => exact Template.chars_signature " => " _ s
  | object properties exact inexact => exact Template.chars_object properties exact inexact

theorem part_of_hole (t u : FlowType) (hole : .inr u ∈ t.template) : u ∈ t.parts := by
  have marked : .inr u ∈ t.template.marks :=
    List.mem_flatMap.mpr ⟨.inr u, hole, List.mem_singleton_self _⟩
  rw [template_marks] at marked
  simpa using marked

def fragments (t : FlowType) : List Fragment :=
  t.template.attach.flatMap fun
    | ⟨.inl f, _⟩ => [f]
    | ⟨.inr u, hole⟩ =>
      have := size_of_part t u (part_of_hole t u hole)
      fragments u
termination_by sizeOf t

end FlowType

def Template.fill (template : Template) : List Fragment :=
  template.flatMap fun x => x.elim ([·]) FlowType.fragments

theorem FlowType.fragments_eq (t : FlowType) : t.fragments = t.template.fill := by
  rw [fragments, List.flatMap_subtype (g := fun x => x.elim ([·]) FlowType.fragments),
    List.unattach_attach]
  · rfl
  · rintro (f | u) _ <;> rfl

theorem fill_chars (template : Template) (each : ∀ u : FlowType, .inr u ∈ template →
    u.fragments.flatMap Fragment.chars = u.chars) :
    template.fill.flatMap Fragment.chars = template.chars := by
  rw [Template.fill, Template.chars, List.flatMap_assoc]
  apply List.flatMap_congr
  rintro (f | u) member
  · exact List.append_nil _
  · exact each u member

theorem FlowType.fragments_chars (t : FlowType) : t.fragments.flatMap Fragment.chars = t.chars := by
  induction t using by_parts with
  | step t ih =>
      rw [fragments_eq, fill_chars t.template fun u hole => ih u (t.part_of_hole u hole), template_chars]

-- The comments of a filled template are its own and those of the types in its holes.
theorem fill_comments (template : Template) : template.fill.filterMap Fragment.comment? =
    template.marks.flatMap fun x => x.elim ([·]) fun u => u.fragments.filterMap Fragment.comment? := by
  rw [Template.fill, Template.marks, List.filterMap_flatMap, List.flatMap_assoc]
  apply List.flatMap_congr
  rintro (f | u) -
  · cases f <;> rfl
  · exact (List.append_nil _).symm

-- Leading comments are printed before trailing ones.
def printOrder (comments : List Comment) : List Comment :=
  comments.filter Comment.isLeading ++ comments.filter Comment.isTrailing

-- Only a placeholder has comments, one for the source and one for the reason, and no arguments.
def FlowType.Settled : FlowType → Prop
  | .literal (.boolean value raw) => raw = if value then "true" else "false"
  | .reference name arguments comments =>
    comments = [] ∨ name = fixme ∧ arguments = none ∧ comments.length = 2
  | _ => True

theorem FlowType.settled_own (t : FlowType) (settled : t.Settled) :
    t.comments = [] ∧ t.isPlaceholder = false ∨
      t.parts = [] ∧ t.isPlaceholder = true ∧ t.comments.length = 2 := by
  cases t with
  | reference name arguments comments =>
      rcases settled with rfl | ⟨rfl, rfl, two⟩
      · exact .inl ⟨rfl, by simp [isPlaceholder]⟩
      · have filled : comments.isEmpty = false := by
          cases comments with
          | nil => cases two
          | cons => rfl
        exact .inr ⟨rfl, by simp [isPlaceholder, filled], two⟩
  | _ => exact .inl ⟨rfl, rfl⟩

theorem FlowType.fragments_comments (t : FlowType)
    (settled : ∀ u : FlowType, u.Occurs t → u.Settled) :
    t.fragments.filterMap Fragment.comment? =
      t.placeholderTypes.flatMap fun p => printOrder p.comments := by
  induction t using by_parts with
  | step t ih =>
      have parts : t.parts.flatMap (fun u => u.fragments.filterMap Fragment.comment?) =
          (t.parts.flatMap placeholderTypes).flatMap fun p => printOrder p.comments := by
        rw [List.flatMap_assoc]
        apply List.flatMap_congr
        exact fun u member => ih u member fun v occurs => settled v (.inside u t member occurs)
      rw [fragments_eq, fill_comments, template_marks, placeholder_types_eq, List.flatMap_append,
        List.flatMap_append, List.flatMap_append, List.flatMap_map, List.flatMap_map,
        List.flatMap_map, ← parts]
      rcases t.settled_own (settled t .here) with ⟨none, other⟩ | ⟨leaf, placeholder, -⟩
      · simp [none, other]
      · simp [leaf, placeholder, printOrder]

end FlowDefs
