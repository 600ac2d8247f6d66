import FlowDefs.Proofs.Conversion.Refinement
import FlowDefs.Proofs.Text.Escapes
import FlowDefs.Proofs.TypeScript.Reading
set_option autoImplicit false

namespace FlowDefs

open Text

section Malformed

variable (type literal : Node) (form : type.construct = .literalType)
  (first : type.firstPart? = some literal) (string : literal.construct = .stringLiteral)

include form first string

theorem malformed_read (malformed : decodeString literal.text = none) :
    TypeExpr.ofNode type = .invalid type.quote .malformedString := by
  rw [TypeExpr.of_node_eq, form]
  simp [Construct.typeForm, TypeExpr.ofLiteral, first, string, malformed]

end Malformed

theorem malformed_escapes_refused (raw : String) :
    ((decodeString raw).isSome = true ↔ ∃ text, IsQuoted raw text ∧ EscapesReadable text) ∧
      (∀ text, IsQuoted raw text → (decodeString raw).isSome = true →
        (EscapesComplete text ↔ ¬ Slips text)) ∧
      ∀ (catalog : Catalog) (session : Session) (type literal : Node),
        type.construct = .literalType → type.firstPart? = some literal →
        literal.construct = .stringLiteral → literal.text = raw →
        (¬ ∃ text, IsQuoted raw text ∧ EscapesReadable text) →
          session.convertType catalog (.ofNode type) =
            (.placeholder type.quote "tsflow-error: malformed string literal", session) := by
  have accepted := decoded_iff raw
  refine ⟨accepted, ?_, ?_⟩
  · intro text quoted decoded
    obtain ⟨other, same, readable⟩ := accepted.mp decoded
    obtain rfl : text = other := by
      have found := (unquoted_iff raw text).mpr quoted
      rw [(unquoted_iff raw other).mpr same, Option.some.injEq] at found
      exact found.symm
    exact complete_iff_no_slip text readable
  · rintro catalog session type literal form first string rfl unreadable
    have malformed : decodeString literal.text = none := by
      rw [← accepted] at unreadable
      simpa using unreadable
    rw [malformed_read type literal form first string malformed, Session.convert_type_invalid]
    rfl

-- The type `'\x4'`, whose escape lacks a digit.
def shortEscape : Node := ⟨"string", [], true, ⟨9, 14⟩, "'\\x4'", "literal_type", []⟩

def shortEscapeType : Node :=
  ⟨"literal_type", ["value"], true, ⟨9, 14⟩, "'\\x4'", "type_alias_declaration", [shortEscape]⟩

theorem short_escape_refused :
    decodeString "'\\x4'" = none ∧
      Session.start.convertType .empty (.ofNode shortEscapeType) =
        (.placeholder ⟨"'\\x4'", ⟨9, 14⟩⟩ "tsflow-error: malformed string literal", .start) ∧
      (decodeString "'\\x41'").isSome = true ∧
      (EscapesComplete "\\x41".toList ↔ ¬ Slips "\\x41".toList) := by
  have none : decodeString "'\\x4'" = none := by decide +kernel
  have some : (decodeString "'\\x41'").isSome = true := by decide +kernel
  have unreadable : ¬ ∃ text, IsQuoted "'\\x4'" text ∧ EscapesReadable text := by
    rw [← decoded_iff, none]
    decide
  refine ⟨none, ?_, some, ?_⟩
  · exact (malformed_escapes_refused "'\\x4'").2.2 .empty .start shortEscapeType shortEscape
      (by decide) rfl (by decide) rfl unreadable
  · exact (malformed_escapes_refused "'\\x41'").2.1 _ ⟨'\'', .inr rfl, by decide⟩ some

theorem slips_have_values :
    (decodeString "\"\\x+1\"" = some "\x01" ∧ IsQuoted "\"\\x+1\"" "\\x+1".toList ∧
      ¬ EscapesComplete "\\x+1".toList) ∧
    decodeString "\"\\u\x7b41\"" = some "A" ∧ IsQuoted "\"\\u\x7b41\"" "\\u\x7b41".toList ∧
      ¬ EscapesComplete "\\u\x7b41".toList := by
  have slip (e : CodeEscape) (readable : e.Readable []) (slipped : e.Slipped) :
      ¬ EscapesComplete ('\\' :: (e.text ++ [])) := fun complete =>
    complete_not_slipped e (complete_code e [] (readable_framed e [] readable) complete).1 slipped
  refine ⟨⟨by decide +kernel, ⟨'"', .inl rfl, by decide⟩, ?_⟩, by decide +kernel,
    ⟨'"', .inl rfl, by decide⟩, ?_⟩
  · exact slip (.byte ['+', '1']) ⟨rfl, by decide, by decide, by decide, fun _ => rfl⟩ (.inl rfl)
  · exact slip (.point ['4', '1'] false) ⟨List.cons_ne_nil _ _, by decide, by decide, by decide,
      fun _ => rfl⟩ (.inr rfl)

end FlowDefs
