import FlowDefs.Proofs.Flow.Spelling
set_option autoImplicit false

namespace FlowDefs

open Text

def bar : List Char := [' ', '|', ' ']

-- The parameters of a signature in one list; on the right stands the rest parameter.
def Signature.items {τ : Type} (s : Signature τ) : List (Param τ ⊕ Param τ) :=
  s.params.map .inl ++ s.rest.toList.map .inr

theorem sides_unique {α β : Type} (xs ys : List α) (last last' : Option β)
    (same : xs.map Sum.inl ++ last.toList.map Sum.inr =
      ys.map Sum.inl ++ last'.toList.map Sum.inr) :
    xs = ys ∧ last = last' := by
  have left := congrArg (List.filterMap Sum.getLeft?) same
  have right := congrArg (List.filterMap Sum.getRight?) same
  have rights (zs : List α) : zs.filterMap (Sum.getRight? ∘ (Sum.inl : α → α ⊕ β)) = [] := by
    simp [List.filterMap_eq_nil_iff]
  have lefts (zs : List β) : zs.filterMap (Sum.getLeft? ∘ (Sum.inr : β → α ⊕ β)) = [] := by
    simp [List.filterMap_eq_nil_iff]
  have itself (zs : List α) : zs.filterMap (Sum.getLeft? ∘ (Sum.inl : α → α ⊕ β)) = zs :=
    List.filterMap_some
  have itself' (zs : List β) : zs.filterMap (Sum.getRight? ∘ (Sum.inr : β → α ⊕ β)) = zs :=
    List.filterMap_some
  simp only [List.filterMap_append, List.filterMap_map, lefts, itself, List.append_nil] at left
  simp only [List.filterMap_append, List.filterMap_map, rights, itself', List.nil_append] at right
  exact ⟨left, by cases last <;> cases last' <;> simp_all⟩

namespace FlowType

-- The properties in one list with the mark of an object type that is open.
def entries (properties : List (Property FlowType)) (inexact : Bool) :
    List (Property FlowType ⊕ Unit) :=
  properties.map .inl ++ (if inexact then some () else none).toList.map .inr

def chars (t : FlowType) : List Char := t.print.toList

def memberChars (t : FlowType) : List Char :=
  if t.isFunction then '(' :: (t.chars ++ [')']) else t.chars

def argumentChars : Option (List FlowType) → List Char
  | none => []
  | some types => '<' :: (listing comma (types.map chars) ++ ['>'])

def optionChars (mark : List Char) : Option FlowType → List Char
  | none => []
  | some t => mark ++ t.chars

def typeParamChars (p : TypeParam FlowType) : List Char :=
  p.name.toList ++ (optionChars [':', ' '] p.bound ++ optionChars [' ', '=', ' '] p.default)

def typeParamsChars : Option (List (TypeParam FlowType)) → List Char
  | none => []
  | some params => '<' :: (listing comma (params.map typeParamChars) ++ ['>'])

def markChars (optional : Bool) : List Char := if optional then ['?', ':', ' '] else [':', ' ']

def paramChars (p : Param FlowType) : List Char :=
  match p.name with
  | none => p.type.chars
  | some name => name.toList ++ (markChars p.optional ++ p.type.chars)

def itemChars : Param FlowType ⊕ Param FlowType → List Char
  | .inl p => paramChars p
  | .inr p => '.' :: '.' :: '.' :: paramChars p

def propertyChars (p : Property FlowType) : List Char :=
  p.key.text.toList ++ (markChars p.optional ++ p.value.chars)

def entryChars : Property FlowType ⊕ Unit → List Char
  | .inl p => propertyChars p
  | .inr () => ['.', '.', '.']

-- From the brace that opens an object type to the one that closes it.
def closeChars (exact : Bool) : List Char := if exact then ['|', '}'] else ['}']

def padding (properties : List (Property FlowType)) : List Char :=
  if properties.isEmpty then [] else [' ']

theorem print_all_eq (ts : List FlowType) : printAll ts = ts.map print := by
  induction ts with
  | nil => rfl
  | cons t ts ih => rw [printAll, ih, List.map_cons]

theorem listing_all (ts : List FlowType) :
    (join ", " (printAll ts)).toList = listing comma (ts.map chars) := by
  rw [join_listing, print_all_eq, List.map_map]
  rfl

theorem option_chars_eq (mark : String) (t : Option FlowType) :
    (printOption mark t).toList = optionChars mark.toList t := by
  cases t with
  | none => rfl
  | some t => rw [printOption, String.toList_append]; rfl

theorem chars_primitive (word : Primitive) : (primitive word).chars = word.text.toList := rfl

theorem chars_literal (value : Literal) : (literal value).chars = value.text.toList := rfl

theorem chars_array (element : FlowType) :
    (array element).chars = "Array".toList ++ ('<' :: (element.chars ++ ['>'])) := by
  simp [chars, print]

theorem chars_tuple (elements : List FlowType) :
    (tuple elements).chars = '[' :: (listing comma (elements.map chars) ++ [']']) := by
  rw [chars, print, String.toList_append, String.toList_append, listing_all]
  rfl

theorem chars_reference (s : String) (ss : List String) (arguments : Option (List FlowType)) :
    (reference ⟨s :: ss⟩ arguments []).chars =
      s.toList ++ ((ss.flatMap fun u => '.' :: u.toList) ++ argumentChars arguments) := by
  have name : (QualifiedName.text ⟨s :: ss⟩).toList =
      s.toList ++ ss.flatMap fun u => '.' :: u.toList := by
    rw [QualifiedName.text, join_listing]
    simp [listing, List.flatMap_map]
  have written : (printArguments arguments).toList = argumentChars arguments := by
    cases arguments with
    | none => rfl
    | some types =>
        rw [printArguments, String.toList_append, String.toList_append, listing_all]
        rfl
  rw [chars, print]
  simp only [String.toList_append, name, written]
  simp [printBefore, printAfter, concat, join]

theorem chars_union (m : FlowType) (ms : List FlowType) :
    (union (m :: ms)).chars = m.memberChars ++ ms.flatMap fun u => bar ++ u.memberChars := by
  have members (ts : List FlowType) : (printMembers ts).map String.toList = ts.map memberChars := by
    induction ts with
    | nil => rfl
    | cons t ts ih =>
        rw [printMembers, List.map_cons, List.map_cons, ih, memberChars]
        congr 1
        cases t.isFunction with
        | false => rfl
        | true => simp [chars]
  rw [chars, print, join_listing, members, List.map_cons, listing, List.flatMap_map]
  rfl

theorem param_chars_eq (p : Param FlowType) :
    (printParamName p.name p.optional ++ p.type.print).toList = paramChars p := by
  obtain ⟨name, type, optional⟩ := p
  cases name with
  | none => simp [printParamName, paramChars, chars]
  | some name => cases optional <;> simp [printParamName, paramChars, chars, markChars]

theorem item_chars_eq (s : Signature FlowType) :
    (printParams s.params ++ printRest s.rest).map String.toList = s.items.map itemChars := by
  have params (ps : List (Param FlowType)) :
      (printParams ps).map String.toList = ps.map paramChars := by
    induction ps with
    | nil => rfl
    | cons p ps ih =>
        rw [printParams, List.map_cons, List.map_cons, ih]
        exact congrArg (· :: _) (param_chars_eq p)
  have rest : (printRest s.rest).map String.toList =
      s.rest.toList.map fun p => itemChars (.inr p) := by
    cases s.rest with
    | none => rfl
    | some p =>
        have written := param_chars_eq p
        rw [String.toList_append] at written
        simp [printRest, itemChars, ← written]
  rw [List.map_append, params, rest, Signature.items, List.map_append, List.map_map, List.map_map]
  rfl

theorem type_params_chars_eq (params : Option (List (TypeParam FlowType))) :
    (printTypeParams params).toList = typeParamsChars params := by
  have listed (ps : List (TypeParam FlowType)) :
      (printTypeParamList ps).map String.toList = ps.map typeParamChars := by
    induction ps with
    | nil => rfl
    | cons p ps ih =>
        rw [printTypeParamList, List.map_cons, List.map_cons, ih]
        simp [typeParamChars, option_chars_eq]
  cases params with
  | none => rfl
  | some ps =>
      rw [printTypeParams, String.toList_append, String.toList_append, join_listing, listed]
      rfl

theorem signature_chars_eq (arrow : String) (s : Signature FlowType) :
    (printSignature arrow s).toList = typeParamsChars s.typeParams ++ ('(' ::
      (listing comma (s.items.map itemChars) ++ (')' :: (arrow.toList ++ s.result.chars)))) := by
  rw [← item_chars_eq s, ← type_params_chars_eq]
  obtain ⟨typeParams, params, rest, result⟩ := s
  rw [printSignature]
  simp only [String.toList_append, join_listing]
  simp [chars, comma]

theorem chars_function (s : Signature FlowType) :
    (function s).chars = typeParamsChars s.typeParams ++ ('(' ::
      (listing comma (s.items.map itemChars) ++
        (')' :: ' ' :: '=' :: '>' :: ' ' :: s.result.chars))) :=
  signature_chars_eq " => " s

theorem chars_object (properties : List (Property FlowType)) (exact inexact : Bool) :
    (object properties exact inexact).chars = '{' :: ((if exact then ['|'] else []) ++
      (padding properties ++ (listing comma ((entries properties inexact).map entryChars) ++
        (padding properties ++ closeChars exact)))) := by
  have listed (ps : List (Property FlowType)) :
      (printPropertyList ps).map String.toList = ps.map propertyChars := by
    induction ps with
    | nil => rfl
    | cons p ps ih =>
        obtain ⟨key, value, optional⟩ := p
        rw [printPropertyList, List.map_cons, List.map_cons, ih]
        cases optional <;> simp [propertyChars, chars, markChars]
  rw [chars, print, printProperties]
  cases properties with
  | nil => cases exact <;> cases inexact <;> rfl
  | cons p ps =>
      have filled : (printPropertyList (p :: ps)).isEmpty = false := by
        obtain ⟨key, value, optional⟩ := p
        rfl
      simp only [filled, Bool.false_eq_true, if_false, String.toList_append, join_listing, listed,
        entries, List.map_append, List.map_cons, List.map_map, List.cons_append, listing,
        List.flatMap_append, padding, List.isEmpty_cons, List.append_assoc]
      cases exact <;> cases inexact <;> simp [entryChars, closeChars, comma, Function.comp_def]

end FlowType

end FlowDefs
