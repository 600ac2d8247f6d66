import FlowDefs.Flow.Format
import FlowDefs.Proofs.Flow.Numerals
import FlowDefs.Proofs.Flow.Unvalued
import FlowDefs.Proofs.Lists
set_option autoImplicit false

namespace FlowDefs

def Variable.unvalued (v : Variable FlowType) : Variable FlowType :=
  ⟨v.name, FlowType.unvaluedOption v.type⟩

def Declaration.unvalued : Declaration FlowType → Declaration FlowType
  | .vars names => .vars (names.map Variable.unvalued)
  | .typeAlias id typeParams right =>
    .typeAlias id (FlowType.unvaluedTypeParams typeParams) right.unvalued
  | .function id signature => .function id (FlowType.unvaluedSignature signature)

def DefaultExport.unvalued : DefaultExport → DefaultExport
  | .identifier name => .identifier name
  | .declaration d => .declaration d.unvalued

def Statement.unvalued : Statement → Statement
  | .empty comments => .empty comments
  | .importing d => .importing d
  | .exportDefault target => .exportDefault target.unvalued
  | .exportNamed d => .exportNamed d.unvalued
  | .declaration d => .declaration d.unvalued

def File.unvalued (file : File) : File := { file with body := file.body.map Statement.unvalued }

-- The converted file with the values of its number literals forgotten.
def ConvertedFile.unvalued (converted : ConvertedFile) : ConvertedFile :=
  ⟨converted.file.unvalued, converted.diagnostics⟩

theorem variable_encode_unvalued (v w : Variable FlowType) (same : v.encode = w.encode) :
    v.unvalued = w.unvalued := by
  obtain ⟨name, type⟩ := v
  obtain ⟨name', type'⟩ := w
  obtain ⟨names, types⟩ := object_inj₂ same
  rw [Variable.unvalued, Variable.unvalued, Json.string.inj names,
    FlowType.encode_option_unvalued type type' types]

theorem declaration_encode_unvalued (d e : Declaration FlowType) (same : d.encode = e.encode) :
    d.unvalued = e.unvalued := by
  cases d with
  | vars names =>
      cases e with
      | vars names' =>
          have items := Json.array.inj (object_inj₁ (variant_inj same).2)
          rw [Declaration.unvalued, Declaration.unvalued,
            map_determined _ _ variable_encode_unvalued names names' items]
      | _ => exact absurd (variant_inj same).1 (by decide)
  | typeAlias id typeParams right =>
      cases e with
      | typeAlias id' typeParams' right' =>
          obtain ⟨ids, generics, types⟩ := object_inj₃ (variant_inj same).2
          rw [Declaration.unvalued, Declaration.unvalued, Json.string.inj ids,
            FlowType.encode_type_params_unvalued typeParams typeParams' generics,
            FlowType.encode_unvalued right right' types]
      | _ => exact absurd (variant_inj same).1 (by decide)
  | function id signature =>
      cases e with
      | function id' signature' =>
          obtain ⟨ids, types⟩ := object_inj₂ (variant_inj same).2
          rw [Declaration.unvalued, Declaration.unvalued, Json.string.inj ids,
            FlowType.encode_signature_unvalued signature signature' types]
      | _ => exact absurd (variant_inj same).1 (by decide)

theorem kind_encode_inj (a b : ImportKind) (same : a.encode = b.encode) : a = b := by
  cases a <;> cases b <;> simp_all [ImportKind.encode]

theorem kind_option_encode_inj (a b : Option ImportKind)
    (same : Json.ofOption ImportKind.encode a = Json.ofOption ImportKind.encode b) : a = b := by
  refine option_inj ImportKind.encode kind_encode_inj (fun kind => ?_) a b same
  cases kind <;> exact nofun

theorem specifier_encode_inj (a b : ImportSpecifier) (same : a.encode = b.encode) : a = b := by
  cases a with
  | default localName =>
      cases b with
      | default localName' => rw [Json.string.inj (object_inj₁ (variant_inj same).2)]
      | _ => exact absurd (variant_inj same).1 (by decide)
  | wholeModule localName =>
      cases b with
      | wholeModule localName' => rw [Json.string.inj (object_inj₁ (variant_inj same).2)]
      | _ => exact absurd (variant_inj same).1 (by decide)
  | named imported localName kind =>
      cases b with
      | named imported' localName' kind' =>
          obtain ⟨names, locals, kinds⟩ := object_inj₃ (variant_inj same).2
          rw [Json.string.inj names, Json.string.inj locals, kind_option_encode_inj _ _ kinds]
      | _ => exact absurd (variant_inj same).1 (by decide)

theorem import_encode_inj (a b : ImportDeclaration) (same : a.encode = b.encode) : a = b := by
  obtain ⟨kind, specifiers, source⟩ := a
  obtain ⟨kind', specifiers', source'⟩ := b
  obtain ⟨kinds, items, sources⟩ := object_inj₃ same
  obtain rfl : kind = kind' := kind_encode_inj _ _ kinds
  obtain rfl : specifiers = specifiers' :=
    (List.map_inj_right specifier_encode_inj).mp (Json.array.inj items)
  obtain rfl : source = source' := Json.string.inj sources
  rfl

theorem export_encode_unvalued (a b : DefaultExport) (same : a.encode = b.encode) :
    a.unvalued = b.unvalued := by
  cases a with
  | identifier name =>
      cases b with
      | identifier name' => rw [Json.string.inj (variant_inj same).2]
      | _ => exact absurd (variant_inj same).1 (by decide)
  | declaration d =>
      cases b with
      | declaration d' =>
          rw [DefaultExport.unvalued, DefaultExport.unvalued,
            declaration_encode_unvalued d d' (variant_inj same).2]
      | _ => exact absurd (variant_inj same).1 (by decide)

theorem statement_encode_unvalued (a b : Statement) (same : a.encode = b.encode) :
    a.unvalued = b.unvalued := by
  cases a with
  | empty comments =>
      cases b with
      | empty comments' =>
          rw [comments_encode_inj comments comments' (object_inj₁ (variant_inj same).2)]
      | _ => exact absurd (variant_inj same).1 (by decide)
  | importing d =>
      cases b with
      | importing d' => rw [import_encode_inj d d' (variant_inj same).2]
      | _ => exact absurd (variant_inj same).1 (by decide)
  | exportDefault target =>
      cases b with
      | exportDefault target' =>
          rw [Statement.unvalued, Statement.unvalued,
            export_encode_unvalued target target' (variant_inj same).2]
      | _ => exact absurd (variant_inj same).1 (by decide)
  | exportNamed d =>
      cases b with
      | exportNamed d' =>
          rw [Statement.unvalued, Statement.unvalued,
            declaration_encode_unvalued d d' (variant_inj same).2]
      | _ => exact absurd (variant_inj same).1 (by decide)
  | declaration d =>
      cases b with
      | declaration d' =>
          rw [Statement.unvalued, Statement.unvalued,
            declaration_encode_unvalued d d' (variant_inj same).2]
      | _ => exact absurd (variant_inj same).1 (by decide)

theorem nat_encode_inj (m n : Nat) (same : Json.ofNat m = Json.ofNat n) : m = n := by
  have digits : Nat.toDigits 10 m = Nat.toDigits 10 n :=
    String.ofList_inj.mp (Json.number.inj same)
  have read (k : Nat) : Nat.ofDigitChars 10 (Nat.toDigits 10 k) 0 = k :=
    Nat.ofDigitChars_toDigits (by decide) (by decide)
  rw [← read m, digits, read n]

theorem span_encode_inj (a b : Span) (same : a.encode = b.encode) : a = b := by
  obtain ⟨start, stop⟩ := a
  obtain ⟨start', stop'⟩ := b
  obtain ⟨starts, stops⟩ := object_inj₂ same
  rw [nat_encode_inj start start' starts, nat_encode_inj stop stop' stops]

theorem diagnostic_encode_inj (a b : Diagnostic) (same : a.encode = b.encode) : a = b := by
  obtain ⟨message, span⟩ := a
  obtain ⟨message', span'⟩ := b
  obtain ⟨messages, spans⟩ := object_inj₂ same
  obtain rfl : message = message' := Json.string.inj messages
  obtain rfl : span = span' := option_inj Span.encode span_encode_inj (fun _ => nofun) _ _ spans
  rfl

theorem file_encode_unvalued (a b : File) (same : a.encode = b.encode) :
    a.unvalued = b.unvalued := by
  obtain ⟨name, header, imports, body⟩ := a
  obtain ⟨name', header', imports', body'⟩ := b
  simp only [File.encode, Json.object.injEq, List.cons.injEq, Prod.mk.injEq, true_and,
    and_true] at same
  obtain ⟨names, headers, needed, statements⟩ := same
  obtain rfl : name = name' := Json.string.inj names
  obtain rfl : header = header' := strings_inj _ _ headers
  obtain rfl : imports = imports' :=
    (List.map_inj_right import_encode_inj).mp (Json.array.inj needed)
  have bodies := map_determined _ _ statement_encode_unvalued body body' (Json.array.inj statements)
  simp only [File.unvalued, bodies]

theorem converted_encode_unvalued (a b : ConvertedFile) (same : a.encode = b.encode) :
    a.unvalued = b.unvalued := by
  obtain ⟨file, diagnostics⟩ := a
  obtain ⟨file', diagnostics'⟩ := b
  obtain ⟨files, warnings⟩ := object_inj₂ same
  rw [ConvertedFile.unvalued, ConvertedFile.unvalued, file_encode_unvalued file file' files,
    (List.map_inj_right diagnostic_encode_inj).mp (Json.array.inj warnings)]

theorem json_text_lossless (a b : ConvertedFile)
    (same : Format.json.write a = Format.json.write b) : a.unvalued = b.unvalued :=
  converted_encode_unvalued a b
    (Json.pretty_injective a.encode b.encode (lexical_converted a) (lexical_converted b) same)

def numberAlias (value : Number.Binary64) : ConvertedFile :=
  ⟨⟨"a.d.ts", [], [], [.declaration (.typeAlias "A" none (.literal (.number value "1e999")))]⟩,
    [⟨"out of range", some ⟨9, 14⟩⟩]⟩

theorem null_for_nan_and_infinity :
    Format.json.write (numberAlias .nan) = Format.json.write (numberAlias (.infinite false)) ∧
      (numberAlias .nan).unvalued = (numberAlias (.infinite false)).unvalued :=
  ⟨rfl, json_text_lossless (numberAlias .nan) (numberAlias (.infinite false)) rfl⟩

end FlowDefs
