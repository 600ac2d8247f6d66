import FlowDefs.Json.Reader
import FlowDefs.Number.Layout
set_option autoImplicit false

namespace FlowDefs.Number

open Json

def Numeric (text : String) : Prop := text.toList.all isNumberChar = true

structure IsLexeme (text : String) : Prop where
  some : text ≠ ""
  numeric : Numeric text

theorem numeric_append (a b : String) (left : Numeric a) (right : Numeric b) :
    Numeric (a ++ b) := by
  rw [Numeric, String.toList_append, List.all_append, left, right]
  rfl

theorem lexeme_append (a b : String) (left : IsLexeme a) (right : Numeric b) :
    IsLexeme (a ++ b) :=
  ⟨fun empty => left.some (String.append_eq_empty_iff.mp empty).1,
    numeric_append a b left.numeric right⟩

theorem append_lexeme (a b : String) (left : Numeric a) (right : IsLexeme b) :
    IsLexeme (a ++ b) :=
  ⟨fun empty => right.some (String.append_eq_empty_iff.mp empty).2,
    numeric_append a b left right.numeric⟩

theorem numeric_digits (n : Nat) (digits : List Char) (listed : digits ⊆ Nat.toDigits 10 n) :
    Numeric (String.ofList digits) := by
  rw [Numeric, String.toList_ofList, List.all_eq_true]
  intro c member
  have digit := Nat.isDigit_of_mem_toDigits (by decide) (by decide) (listed member)
  simp [isNumberChar, digit]

theorem lexeme_digits (n : Nat) : IsLexeme (Nat.repr n) := by
  refine ⟨fun empty => ?_, numeric_digits n _ (List.Subset.refl _)⟩
  have digits := String.toList_eq_nil_iff.mpr empty
  rw [Nat.repr, String.toList_ofList] at digits
  exact Nat.toDigits_ne_nil digits

theorem numeric_zeros (n : Nat) : Numeric (zeros n) := by
  rw [Numeric, zeros, String.toList_ofList, List.all_eq_true]
  intro c member
  rw [List.eq_of_mem_replicate member]
  rfl

theorem lexeme_point : IsLexeme "." := ⟨by decide, rfl⟩

theorem lexeme_positional (d : Decimal) : IsLexeme d.positional := by
  have digits (part : List Char) (listed : part ⊆ Nat.toDigits 10 d.digits) :=
    numeric_digits d.digits part listed
  unfold Decimal.positional
  dsimp only
  split
  · exact append_lexeme _ _ (numeric_append _ _ (digits _ (List.Subset.refl _)) (numeric_zeros _))
      ⟨by decide, rfl⟩
  · split
    · exact lexeme_append _ _
        (append_lexeme _ _ (digits _ (List.take_subset _ _)) lexeme_point)
        (digits _ (List.drop_subset _ _))
    · exact lexeme_append _ _ (lexeme_append _ _ ⟨by decide, rfl⟩ (numeric_zeros _))
        (digits _ (List.Subset.refl _))

theorem lexeme_scientific (d : Decimal) : IsLexeme d.scientific := by
  have digits (part : List Char) (listed : part ⊆ Nat.toDigits 10 d.digits) :=
    numeric_digits d.digits part listed
  have sign : Numeric (if d.leading < 0 then "-" else "+") := by split <;> rfl
  have mark : IsLexeme "e" := ⟨by decide, rfl⟩
  unfold Decimal.scientific
  refine lexeme_append _ _ (lexeme_append _ _ (append_lexeme _ _
    (numeric_append _ _ (digits _ (List.take_subset _ _)) ?_) mark) sign) (lexeme_digits _).numeric
  split
  · rfl
  · exact numeric_append _ _ lexeme_point.numeric (digits _ (List.drop_subset 1 _))

theorem lexeme_number (layout : Layout) (x : Binary64) (text : String)
    (written : x.text? layout = some text) : IsLexeme text := by
  cases x with
  | nan => cases written
  | infinite negative => cases written
  | finite negative units =>
      have magnitude : IsLexeme
          (if units = 0 then "0.0" else (Binary64.shortest units).text layout) := by
        split
        · exact ⟨by decide, rfl⟩
        · unfold Decimal.text
          split
          · exact lexeme_positional _
          · exact lexeme_scientific _
      obtain rfl := Option.some.inj written
      split
      · exact append_lexeme _ _ rfl magnitude
      · exact magnitude

end FlowDefs.Number
