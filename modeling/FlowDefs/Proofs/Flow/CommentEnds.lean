import FlowDefs.Flow.Printer
import FlowDefs.Proofs.Text.BlockComments
import FlowDefs.Proofs.Text.Listing
set_option autoImplicit false

namespace FlowDefs

open Text

namespace Text

def endMark : List Char := ['*', '/']

-- The end mark after the text is the first one; others can only stand in what follows.
def EndsAfter (inside : List Char) : Prop :=
  ∀ rest before after : List Char, inside ++ endMark ++ rest = before ++ endMark ++ after →
    before = inside ∨ inside ++ endMark <+: before

theorem unended_ends_after (inside : List Char) (unended : ¬ endMark <:+: inside) :
    EndsAfter inside := by
  intro rest before after same
  rw [List.append_assoc, List.append_assoc] at same
  rcases List.append_eq_append_iff.mp same with ⟨between, rfl, later⟩ | ⟨between, rfl, later⟩
  · rcases between with _ | ⟨c, _ | ⟨d, between⟩⟩
    · exact .inl (List.append_nil inside)
    · simp [endMark] at later
    · simp only [endMark, List.cons_append, List.cons.injEq] at later
      obtain ⟨rfl, rfl, -⟩ := later
      exact .inr ⟨between, by simp [endMark]⟩
  · rcases between with _ | ⟨c, _ | ⟨d, between⟩⟩
    · exact .inl (List.append_nil before).symm
    · simp [endMark] at later
    · simp only [endMark, List.cons_append, List.cons.injEq] at later
      obtain ⟨rfl, rfl, -⟩ := later
      exact absurd ⟨before, between, by simp [endMark]⟩ unended

theorem unended_short (cs : List Char) (short : cs.length < 2) : ¬ endMark <:+: cs := fun inner =>
  absurd inner.length_le (Nat.not_le.mpr short)

theorem unended_cons (c : Char) (cs : List Char) (other : c ≠ '*') (unended : ¬ endMark <:+: cs) :
    ¬ endMark <:+: c :: cs := by
  rw [List.infix_cons_iff, not_or]
  refine ⟨fun first => ?_, unended⟩
  exact other (List.cons_prefix_cons.mp first).1.symm

theorem unended_star (cs : List Char) (goesOn : cs.head? ≠ some '/')
    (unended : ¬ endMark <:+: cs) : ¬ endMark <:+: '*' :: cs := by
  rw [List.infix_cons_iff, not_or]
  refine ⟨fun first => ?_, unended⟩
  obtain ⟨rest, same⟩ := (List.cons_prefix_cons.mp first).2
  exact goesOn (by rw [← same]; rfl)

-- Texts can be put together where the second one does not begin with a slash.
theorem unended_append (left right : List Char) (goesOn : right.head? ≠ some '/')
    (before : ¬ endMark <:+: left) (after : ¬ endMark <:+: right) :
    ¬ endMark <:+: left ++ right := by
  induction left with
  | nil => exact after
  | cons c left ih =>
      have rest := ih fun inner => before (inner.trans (List.suffix_cons c left).isInfix)
      by_cases star : c = '*'
      · subst star
        apply unended_star _ _ rest
        cases left with
        | nil => exact goesOn
        | cons d left =>
            intro slash
            cases slash
            exact before ⟨[], left, rfl⟩
      · exact unended_cons c _ star rest

theorem broken_unended (cs : List Char) : ¬ endMark <:+: breakCommentEnds cs := by
  induction cs using breakCommentEnds.induct with
  | case1 cs ih =>
      rw [breakCommentEnds]
      exact unended_star _ (by simp)
        (unended_cons '\\' _ (by decide) (unended_cons '/' _ (by decide) ih))
  | case2 c cs apart ih =>
      rw [breakCommentEnds]
      · by_cases star : c = '*'
        · subst star
          apply unended_star _ _ ih
          rw [break_head]
          intro slash
          obtain ⟨rest, rfl⟩ := List.head?_eq_some_iff.mp slash
          exact apart rest rfl rfl
        · exact unended_cons c _ star ih
      · exact apart
  | case3 => exact unended_short _ (by decide)

theorem comment_inside_unended (text : String) : ¬ endMark <:+: commentInside text :=
  unended_cons ' ' _ (by decide)
    (unended_append _ _ (by simp) (broken_unended text.toList) (unended_short _ (by decide)))

theorem block_comment_spelled (text : String) :
    (blockComment text).toList = '/' :: '*' :: (commentInside text ++ endMark) := by
  simp [blockComment, commentText, commentInside, endMark]

end Text

namespace File

-- A line of the header after the first one.
def headerLine (line : String) : List Char :=
  ' ' :: '*' :: ' ' :: (breakCommentEnds line.toList ++ ['\n'])

def headerInside (first : String) (rest : List String) : List Char :=
  ' ' :: (breakCommentEnds first.toList ++ '\n' :: (rest.flatMap headerLine ++ [' ']))

theorem header_line_unended (line : String) : ¬ endMark <:+: headerLine line := by
  have text : ¬ endMark <:+: breakCommentEnds line.toList ++ ['\n'] :=
    unended_append _ _ (by simp) (broken_unended line.toList) (unended_short _ (by decide))
  exact unended_cons ' ' _ (by decide)
    (unended_star _ (by simp) (unended_cons ' ' _ (by decide) text))

theorem header_inside_unended (first : String) (rest : List String) :
    ¬ endMark <:+: headerInside first rest := by
  have lines : ¬ endMark <:+: rest.flatMap headerLine ++ [' '] := by
    induction rest with
    | nil => exact unended_short _ (by decide)
    | cons line rest ih =>
        rw [List.flatMap_cons, List.append_assoc]
        apply unended_append _ _ _ (header_line_unended line) ih
        cases rest <;> simp [headerLine]
  exact unended_cons ' ' _ (by decide) (unended_append _ _ (by simp)
    (broken_unended first.toList) (unended_cons '\n' _ (by decide) lines))

theorem header_spelled (first : String) (rest : List String) :
    (printHeader (first :: rest)).toList =
      '/' :: '*' :: (headerInside first rest ++ endMark) ++ ['\n'] := by
  have lines : (concat (rest.map fun line => " * " ++ commentText line ++ "\n")).toList =
      rest.flatMap headerLine := by
    have each : (String.toList ∘ fun line : String => " * " ++ commentText line ++ "\n") =
        headerLine := by
      funext line
      simp [headerLine, commentText]
    rw [concat, join_listing, List.map_map, each]
    cases rest with
    | nil => rfl
    | cons line rest => simp [listing, List.flatMap_map]
  rw [printHeader]
  simp only [String.toList_append, lines]
  simp [headerInside, commentText, endMark]

end File

-- A comment of a placeholder, and that of the header, are closed by their last two characters and
-- by none before, in whatever text they stand.
theorem comments_end_last :
    (∀ c : Comment, c.print.toList = '/' :: '*' :: (commentInside c.text ++ endMark) ∧
      EndsAfter (commentInside c.text)) ∧
    ∀ (first : String) (rest : List String),
      (File.printHeader (first :: rest)).toList =
        '/' :: '*' :: (File.headerInside first rest ++ endMark) ++ ['\n'] ∧
      EndsAfter (File.headerInside first rest) :=
  ⟨fun c => ⟨block_comment_spelled c.text, unended_ends_after _ (comment_inside_unended c.text)⟩,
    fun first rest => ⟨File.header_spelled first rest,
      unended_ends_after _ (File.header_inside_unended first rest)⟩⟩

example : (Comment.print ⟨"a **/ b */*/", .trailing⟩) = "/* a **\\/ b *\\/*\\/ */" := by decide

end FlowDefs
