import FlowDefs.Proofs.Text.Cooked
import FlowDefs.Text.StringLiteral
set_option autoImplicit false

namespace FlowDefs.Text

def quoteChar (c : Char) : List Char := if c = '\\' ∨ c = '\'' then ['\\', c] else [c]

theorem replaced_chars (old : Char) (new text : String) : (replaceChar old new text).toList =
    text.toList.flatMap fun c => if c = old then new.toList else [c] := String.toList_ofList

-- One replacement after the other is one for each character.
theorem quoted_spelled (name : String) :
    (quoteModule name).toList = '\'' :: name.toList.flatMap quoteChar ++ ['\''] := by
  have each (c : Char) : (if c = '\\' then "\\\\".toList else [c]).flatMap
      (fun d => if d = '\'' then "\\'".toList else [d]) = quoteChar c := by
    by_cases backslash : c = '\\'
    · subst backslash
      decide
    · by_cases quote : c = '\''
      · subst quote
        decide
      · simp [quoteChar, backslash, quote]
  have twice : (replaceChar '\'' "\\'" (replaceChar '\\' "\\\\" name)).toList =
      name.toList.flatMap quoteChar := by
    rw [replaced_chars, replaced_chars, List.flatMap_assoc]
    exact congrArg name.toList.flatMap (funext each)
  rw [quoteModule, String.toList_append, String.toList_append, twice]
  rfl

def quotedElement (c : Char) : Element := if c = '\\' ∨ c = '\'' then .escaped c else .plain c

-- The element is how the character is quoted, and denotes this character wherever it stands.
structure StandsFor (e : Element) (c : Char) : Prop where
  text : e.text = quoteChar c
  formed : e.WellFormed '\''
  before : ∀ following, e.Before following
  units : e.units = codeUnits c.toNat
  goesOn : e.isContinuation = false

theorem quoted_stands (c : Char) : StandsFor (quotedElement c) c := by
  by_cases special : c = '\\' ∨ c = '\''
  · have text : (Element.escaped c).text = quoteChar c := by rw [quoteChar, if_pos special]; rfl
    rw [quotedElement, if_pos special]
    rcases special with rfl | rfl
    · exact ⟨text, (by decide : Element.isEscapable '\\' = true), fun _ => trivial, rfl, rfl⟩
    · exact ⟨text, (by decide : Element.isEscapable '\'' = true), fun _ => trivial, rfl, rfl⟩
  · have text : (Element.plain c).text = quoteChar c := by rw [quoteChar, if_neg special]; rfl
    rw [quotedElement, if_neg special]
    exact ⟨text, not_or.mp special, fun _ => trivial, rfl, rfl⟩

theorem quoted_written (cs : List Char) :
    Written '\'' (cs.map quotedElement) (cs.flatMap quoteChar) := by
  induction cs with
  | nil => exact .done
  | cons c cs ih =>
      have first := quoted_stands c
      rw [List.map_cons, List.flatMap_cons, ← first.text]
      exact .next _ _ _ first.formed (first.before _) ih

theorem quoted_decoded (name : String) : decodeString (quoteModule name) = some name := by
  have whole : ∀ e ∈ name.toList.map quotedElement, e.isContinuation = false := by
    intro e member
    obtain ⟨c, -, rfl⟩ := List.mem_map.mp member
    exact (quoted_stands c).goesOn
  have units : literalUnits (name.toList.map quotedElement) =
      name.toList.flatMap fun c => codeUnits c.toNat := by
    rw [literalUnits, List.flatMap_map]
    exact congrArg (name.toList.flatMap ·) (funext fun c => (quoted_stands c).units)
  rw [decoded_stretches (quoteModule name) '\'' _ _ (.inr rfl) (quoted_written name.toList)
    (quoted_spelled name), stretch_single _ whole, units, lossy_chars, String.ofList_toList]

theorem quote_injective : Function.Injective quoteModule := by
  intro name other same
  have decoded := quoted_decoded name
  rw [same, quoted_decoded other, Option.some.injEq] at decoded
  exact decoded.symm

end FlowDefs.Text
