import FlowDefs.Flow.Printer
import FlowDefs.Proofs.Text.Quoting
set_option autoImplicit false

namespace FlowDefs.Text

def isLineTerminator (c : Char) : Bool :=
  c = '\n' || c = '\r' || c = '\u2028' || c = '\u2029'

-- Where a scanner of program text is that knows strings and comments.
inductive ScanMode where
  | code
  | slash
  | line
  | quoted (mark : Char)
  | escaped (mark : Char)
  -- With the text since the comment began; a star may be the beginning of its end.
  | block (text : List Char)
  | star (text : List Char)
deriving DecidableEq

def codeStep (c : Char) : ScanMode :=
  if c = '/' then .slash else if c = '"' ∨ c = '\'' then .quoted c else .code

-- The next mode, and the comment that ends here.
def scanStep : ScanMode → Char → ScanMode × Option (List Char)
  | .code, c => (codeStep c, none)
  | .slash, c => (if c = '/' then .line else if c = '*' then .block [] else codeStep c, none)
  | .line, c => (if isLineTerminator c then .code else .line, none)
  | .quoted mark, c =>
    (if c = mark then .code else if c = '\\' then .escaped mark else .quoted mark, none)
  | .escaped mark, _ => (.quoted mark, none)
  | .block text, c => (if c = '*' then .star text else .block (text ++ [c]), none)
  | .star text, c =>
    if c = '/' then (.code, some text)
    else if c = '*' then (.star (text ++ ['*']), none)
    else (.block (text ++ ['*', c]), none)

def scan (mode : ScanMode) : List Char → ScanMode × List (List Char)
  | [] => (mode, [])
  | c :: cs =>
    let next := scanStep mode c
    let rest := scan next.1 cs
    (rest.1, next.2.toList ++ rest.2)

def blockComments (text : List Char) : List (List Char) := (scan .code text).2

-- A text with these comments, at whose end the scanner is back in code.
def Reads (text : List Char) (comments : List (List Char)) : Prop :=
  scan .code text = (.code, comments)

def Plain (text : List Char) : Prop := Reads text []

instance (text : List Char) (comments : List (List Char)) : Decidable (Reads text comments) :=
  inferInstanceAs (Decidable (scan .code text = (.code, comments)))

instance (text : List Char) : Decidable (Plain text) := inferInstanceAs (Decidable (Reads text []))

theorem scan_append (mode : ScanMode) (left right : List Char) :
    scan mode (left ++ right) = ((scan (scan mode left).1 right).1,
      (scan mode left).2 ++ (scan (scan mode left).1 right).2) := by
  induction left generalizing mode with
  | nil => rfl
  | cons c left ih =>
      rw [List.cons_append, scan, ih, scan]
      simp only [List.append_assoc]

theorem reads_comments (text : List Char) (comments : List (List Char))
    (reads : Reads text comments) : blockComments text = comments := congrArg Prod.snd reads

theorem reads_nil : Reads [] [] := rfl

theorem reads_append (left right : List Char) (first second : List (List Char))
    (before : Reads left first) (after : Reads right second) :
    Reads (left ++ right) (first ++ second) := by
  have begins : scan .code left = (.code, first) := before
  have ends : scan .code right = (.code, second) := after
  rw [Reads, scan_append, begins, ends]

theorem reads_flat_map {α : Type} (item : α → List Char) (found : α → List (List Char))
    (xs : List α) (reads : ∀ x ∈ xs, Reads (item x) (found x)) :
    Reads (xs.flatMap item) (xs.flatMap found) := by
  induction xs with
  | nil => exact reads_nil
  | cons x xs ih =>
      rw [List.flatMap_cons, List.flatMap_cons]
      exact reads_append _ _ _ _ (reads x List.mem_cons_self)
        (ih fun y member => reads y (List.mem_cons_of_mem x member))

theorem scan_silent (mode next : ScanMode) (c : Char) (cs : List Char)
    (step : scanStep mode c = (next, none)) : scan mode (c :: cs) = scan next cs := by
  rw [scan, step]
  rfl

-- A star that does not end the comment belongs to its text.
theorem scan_star (text : List Char) (c : Char) (cs : List Char) (goesOn : c ≠ '/') :
    scan (.star text) (c :: cs) = scan (.block (text ++ ['*'])) (c :: cs) := by
  have same : scanStep (.star text) c = scanStep (.block (text ++ ['*'])) c := by
    by_cases star : c = '*'
    · simp [scanStep, star]
    · simp [scanStep, goesOn, star]
  rw [scan, same, scan]

theorem break_head (cs : List Char) : (breakCommentEnds cs).head? = cs.head? := by
  cases cs using breakCommentEnds.fun_cases with
  | case1 cs => rfl
  | case2 c cs apart =>
      rw [breakCommentEnds]
      · rfl
      · exact apart
  | case3 => rfl

theorem scan_broken (text cs : List Char) :
    scan (.block text) (breakCommentEnds cs ++ [' ', '*', '/']) =
      (.code, [text ++ breakCommentEnds cs ++ [' ']]) := by
  induction cs using breakCommentEnds.induct generalizing text with
  | case1 cs ih =>
      rw [breakCommentEnds, List.cons_append, List.cons_append, List.cons_append,
        scan_silent _ (.star text) _ _ rfl, scan_silent _ (.block (text ++ ['*', '\\'])) _ _ rfl,
        scan_silent _ (.block (text ++ ['*', '\\'] ++ ['/'])) _ _ rfl, ih]
      simp
  | case2 c cs apart ih =>
      have broken : breakCommentEnds (c :: cs) = c :: breakCommentEnds cs := by
        rw [breakCommentEnds]
        exact apart
      rw [broken, List.cons_append]
      by_cases star : c = '*'
      · subst star
        have head := break_head cs
        rw [scan_silent _ (.star text) _ _ rfl]
        cases rest : breakCommentEnds cs ++ [' ', '*', '/'] with
        | nil => simp at rest
        | cons d ds =>
            have goesOn : d ≠ '/' := by
              rintro rfl
              have first := congrArg List.head? rest
              rw [List.head?_append, head] at first
              cases cs with
              | nil => cases first
              | cons e cs =>
                  cases first
                  exact apart cs rfl rfl
            rw [scan_star text d ds goesOn, ← rest, ih]
            simp
      · have step : scanStep (.block text) c = (.block (text ++ [c]), none) := by
          rw [scanStep, if_neg star]
        rw [scan_silent _ _ _ _ step, ih]
        simp
  | case3 => simp [breakCommentEnds, scan, scanStep]

def commentInside (text : String) : List Char := ' ' :: (breakCommentEnds text.toList ++ [' '])

theorem reads_block_comment (text : String) :
    Reads (blockComment text).toList [commentInside text] := by
  have spelled : (blockComment text).toList =
      '/' :: '*' :: ' ' :: (breakCommentEnds text.toList ++ [' ', '*', '/']) := by
    simp [blockComment, commentText]
  rw [Reads, spelled, scan_silent _ .slash _ _ rfl, scan_silent _ (.block []) _ _ rfl,
    scan_silent _ (.block [' ']) _ _ rfl, scan_broken]
  rfl

theorem plain_quoted_module (name : String) : Plain (quoteModule name).toList := by
  have inside (cs : List Char) : scan (.quoted '\'') (cs.flatMap quoteChar ++ ['\'']) = (.code, []) := by
    induction cs with
    | nil => rfl
    | cons c cs ih =>
        rw [List.flatMap_cons, List.append_assoc]
        by_cases special : c = '\\' ∨ c = '\''
        · rw [quoteChar, if_pos special, List.cons_append, List.cons_append, List.nil_append,
            scan_silent _ (.escaped '\'') _ _ rfl, scan_silent _ (.quoted '\'') _ _ rfl]
          exact ih
        · have step : scanStep (.quoted '\'') c = (.quoted '\'', none) := by
            rw [not_or] at special
            rw [scanStep, if_neg special.2, if_neg special.1]
          rw [quoteChar, if_neg special, List.cons_append, List.nil_append,
            scan_silent _ _ _ _ step]
          exact ih
  rw [Plain, Reads, quoted_spelled, List.cons_append, scan_silent _ (.quoted '\'') _ _ rfl]
  exact inside name.toList

end FlowDefs.Text
