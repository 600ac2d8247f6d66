import FlowDefs.Json.Printer
import FlowDefs.Json.Reader
set_option autoImplicit false

namespace FlowDefs.Json

theorem hex_of_digit (n : Nat) (small : n < 16) : hexOf? (hexDigit n) = some n := by
  have all : ∀ m < 16, hexOf? (hexDigit m) = some m := by decide
  exact all n small

theorem read_simple (e c : Char) (rest : List Char) (simple : simpleEscape? e = some c)
    (other : e ≠ 'u') :
    readString ('\\' :: e :: rest) = (readString rest).map fun r => (c :: r.1, r.2) := by
  rw [readString.eq_def]
  split
  · next eq => cases eq
  · next eq => cases eq
  · next eq => cases eq; exact absurd rfl other
  · next eq =>
      cases eq
      rw [simple]
      cases readString rest <;> rfl
  · next plain eq => cases eq; exact (plain _ _ rfl rfl).elim

theorem read_control (c : Char) (rest : List Char) (control : c.toNat < 0x20) :
    readString ('\\' :: 'u' :: '0' :: '0' :: hexDigit (c.toNat / 16) :: hexDigit (c.toNat % 16) ::
      rest) = (readString rest).map fun r => (c :: r.1, r.2) := by
  have high := hex_of_digit (c.toNat / 16) (by omega)
  have low := hex_of_digit (c.toNat % 16) (by omega)
  have zero : hexOf? '0' = some 0 := by decide
  have unit : unit? '0' '0' (hexDigit (c.toNat / 16)) (hexDigit (c.toNat % 16)) =
      some c.toNat := by
    simp only [unit?, zero, high, low, Option.bind_eq_bind, Option.bind_some]
    congr 1
    omega
  rw [readString, unit]
  simp only [Option.bind_eq_bind, Option.bind_some]
  rw [if_neg (by omega), Char.ofNat_toNat]
  cases readString rest <;> rfl

theorem read_plain (c : Char) (rest : List Char) (quote : c ≠ '"') (backslash : c ≠ '\\') :
    readString (c :: rest) = (readString rest).map fun r => (c :: r.1, r.2) := by
  rw [readString.eq_def]
  split
  · next eq => cases eq
  · next eq => cases eq; exact absurd rfl quote
  · next eq => cases eq; exact absurd rfl backslash
  · next eq => cases eq; exact absurd rfl backslash
  · next eq =>
      cases eq
      cases readString rest <;> rfl

theorem escape_cases (c : Char) :
    (∃ e : Char, escapeChar c = ['\\', e] ∧ simpleEscape? e = some c ∧ e ≠ 'u') ∨
    (c.toNat < 0x20 ∧ escapeChar c =
      ['\\', 'u', '0', '0', hexDigit (c.toNat / 16), hexDigit (c.toNat % 16)]) ∨
    (c ≠ '"' ∧ c ≠ '\\' ∧ escapeChar c = [c]) := by
  by_cases quote : c = '"'
  · exact .inl ⟨'"', by simp [escapeChar, quote], by simp [quote, simpleEscape?], by decide⟩
  by_cases backslash : c = '\\'
  · exact .inl ⟨'\\', by simp [escapeChar, backslash], by simp [backslash, simpleEscape?],
      by decide⟩
  by_cases backspace : c = '\x08'
  · exact .inl ⟨'b', by simp [escapeChar, backspace], by simp [backspace, simpleEscape?], by decide⟩
  by_cases formFeed : c = '\x0c'
  · exact .inl ⟨'f', by simp [escapeChar, formFeed], by simp [formFeed, simpleEscape?], by decide⟩
  by_cases lineFeed : c = '\n'
  · exact .inl ⟨'n', by simp [escapeChar, lineFeed], by simp [lineFeed, simpleEscape?], by decide⟩
  by_cases carriage : c = '\r'
  · exact .inl ⟨'r', by simp [escapeChar, carriage], by simp [carriage, simpleEscape?], by decide⟩
  by_cases tab : c = '\t'
  · exact .inl ⟨'t', by simp [escapeChar, tab], by simp [tab, simpleEscape?], by decide⟩
  by_cases control : c.toNat < 0x20
  · exact .inr (.inl ⟨control, by simp [escapeChar, *]⟩)
  · exact .inr (.inr ⟨quote, backslash, by simp [escapeChar, *]⟩)

theorem read_escaped (c : Char) (rest : List Char) :
    readString (escapeChar c ++ rest) = (readString rest).map fun r => (c :: r.1, r.2) := by
  rcases escape_cases c with ⟨e, spelled, simple, other⟩ | ⟨control, spelled⟩ |
    ⟨quote, backslash, spelled⟩
  · rw [spelled]
    exact read_simple e c rest simple other
  · rw [spelled]
    exact read_control c rest control
  · rw [spelled]
    exact read_plain c rest quote backslash

theorem read_quoted (text : List Char) (rest : List Char) :
    readString (text.flatMap escapeChar ++ '"' :: rest) = some (text, rest) := by
  induction text with
  | nil => rw [List.flatMap_nil, List.nil_append, readString]
  | cons c text ih =>
      rw [List.flatMap_cons, List.append_assoc, read_escaped, ih]
      rfl

-- Every number is written with the characters of numbers.
inductive Lexical : Json → Prop where
  | null : Lexical .null
  | bool (value : Bool) : Lexical (.bool value)
  | number (lexeme : String) (some : lexeme ≠ "")
      (chars : lexeme.toList.all isNumberChar = true) : Lexical (.number lexeme)
  | string (value : String) : Lexical (.string value)
  | array (items : List Json) (each : ∀ x ∈ items, Lexical x) : Lexical (.array items)
  | object (members : List (String × Json)) (each : ∀ m ∈ members, Lexical m.2) :
      Lexical (.object members)

def textAt (depth : Nat) (x : Json) : List Char := (prettyAt depth x).toList

def itemsAt (depth : Nat) (xs : List Json) : List Char := (prettyItems depth xs).toList

def membersAt (depth : Nat) (ms : List (String × Json)) : List Char :=
  (prettyMembers depth ms).toList

def lineAt (depth : Nat) : List Char := (newLine depth).toList

def quoted (text : String) : List Char := (quote text).toList

section Text

variable (depth : Nat)

attribute [local simp] prettyAt prettyItems prettyMembers readValue readItems readMembers

theorem text_null : textAt depth .null = ['n', 'u', 'l', 'l'] := by
  rw [textAt, prettyAt]
  rfl

theorem text_true : textAt depth (.bool true) = ['t', 'r', 'u', 'e'] := by
  rw [textAt, prettyAt]
  rfl

theorem text_false : textAt depth (.bool false) = ['f', 'a', 'l', 's', 'e'] := by
  rw [textAt, prettyAt]
  rfl

theorem text_number (lexeme : String) : textAt depth (.number lexeme) = lexeme.toList := by
  rw [textAt, prettyAt]

theorem text_string (value : String) : textAt depth (.string value) = quoted value := by
  rw [textAt, prettyAt, quoted]

theorem text_no_items : textAt depth (.array []) = ['[', ']'] := by
  rw [textAt, prettyAt]
  rfl

theorem text_no_members : textAt depth (.object []) = ['\x7b', '\x7d'] := by
  rw [textAt, prettyAt]
  rfl

theorem no_items : itemsAt depth [] = [] := by
  rw [itemsAt, prettyItems]
  rfl

theorem no_members : membersAt depth [] = [] := by
  rw [membersAt, prettyMembers]
  rfl

theorem text_array (x : Json) (xs : List Json) :
    textAt depth (.array (x :: xs)) =
      '[' :: (lineAt (depth + 1) ++ (textAt (depth + 1) x ++ (itemsAt (depth + 1) xs ++
        (lineAt depth ++ [']'])))) := by
  simp [textAt, itemsAt, lineAt, String.toList_append]

theorem text_object (name : String) (x : Json) (ms : List (String × Json)) :
    textAt depth (.object ((name, x) :: ms)) =
      '\x7b' :: (lineAt (depth + 1) ++ (quoted name ++ (':' :: ' ' :: (textAt (depth + 1) x ++
        (membersAt (depth + 1) ms ++ (lineAt depth ++ ['\x7d'])))))) := by
  simp [textAt, membersAt, lineAt, quoted, String.toList_append]

theorem items_cons (x : Json) (xs : List Json) :
    itemsAt depth (x :: xs) = ',' :: (lineAt depth ++ (textAt depth x ++ itemsAt depth xs)) := by
  simp [textAt, itemsAt, lineAt, String.toList_append]

theorem members_cons (name : String) (x : Json) (ms : List (String × Json)) :
    membersAt depth ((name, x) :: ms) =
      ',' :: (lineAt depth ++ (quoted name ++ (':' :: ' ' :: (textAt depth x ++
        membersAt depth ms)))) := by
  simp [textAt, membersAt, lineAt, quoted, String.toList_append]

theorem quoted_eq (text : String) :
    quoted text = '"' :: (text.toList.flatMap escapeChar ++ ['"']) := by
  simp [quoted, quote, String.toList_append]

theorem line_eq : lineAt depth = '\n' :: List.replicate (2 * depth) ' ' := by
  simp [lineAt, newLine, String.toList_append]

theorem skip_line (cs : List Char) : skipBlank (lineAt depth ++ cs) = skipBlank cs := by
  rw [skipBlank, skipBlank, List.dropWhile_append_of_pos]
  intro c member
  rw [line_eq, List.mem_cons] at member
  rcases member with rfl | space
  · rfl
  · rw [List.eq_of_mem_replicate space]
    rfl

theorem skip_space (cs : List Char) : skipBlank (' ' :: cs) = skipBlank cs := by
  rw [skipBlank, List.dropWhile_cons_of_pos (by decide), skipBlank]

theorem skip_none (c : Char) (cs : List Char) (plain : isBlank c = false) :
    skipBlank (c :: cs) = c :: cs := by
  rw [skipBlank, List.dropWhile_cons_of_neg (by simp [plain])]

theorem read_value_line (fuel : Nat) (cs : List Char) :
    readValue fuel (lineAt depth ++ cs) = readValue fuel cs := by
  cases fuel with
  | zero => rfl
  | succ fuel => simp [skip_line]

theorem read_value_space (fuel : Nat) (cs : List Char) :
    readValue fuel (' ' :: cs) = readValue fuel cs := by
  cases fuel with
  | zero => rfl
  | succ fuel => simp [skip_space]

theorem read_items_line (fuel : Nat) (cs : List Char) :
    readItems fuel (lineAt depth ++ cs) = readItems fuel cs := by
  cases fuel with
  | zero => rfl
  | succ fuel => simp [read_value_line]

theorem read_members_line (fuel : Nat) (cs : List Char) :
    readMembers fuel (lineAt depth ++ cs) = readMembers fuel cs := by
  cases fuel with
  | zero => rfl
  | succ fuel => simp [skip_line]

theorem number_not_blank (c : Char) (number : isNumberChar c = true) : isBlank c = false := by
  rw [Bool.eq_false_iff]
  intro blank
  simp only [isBlank, Bool.or_eq_true, decide_eq_true_eq] at blank
  rcases blank with ((rfl | rfl) | rfl) | rfl <;> exact absurd number (by decide)

theorem text_begins (x : Json) (lexical : Lexical x) :
    ∃ (c : Char) (cs : List Char), textAt depth x = c :: cs ∧ isBlank c = false ∧ c ≠ ']' := by
  cases lexical with
  | null => exact ⟨_, _, text_null depth, rfl, by decide⟩
  | bool value =>
      cases value with
      | true => exact ⟨_, _, text_true depth, rfl, by decide⟩
      | false => exact ⟨_, _, text_false depth, rfl, by decide⟩
  | number lexeme some chars =>
      obtain ⟨c, cs, spelled⟩ := List.exists_cons_of_ne_nil
        (fun empty => some (String.toList_eq_nil_iff.mp empty))
      rw [spelled, List.all_cons, Bool.and_eq_true] at chars
      refine ⟨c, cs, (text_number depth lexeme).trans spelled, ?_, ?_⟩
      · exact number_not_blank c chars.1
      · rintro rfl
        exact absurd chars.1 (by decide)
  | string value => exact ⟨_, _, (text_string depth value).trans (quoted_eq value), rfl, by decide⟩
  | array items each =>
      cases items with
      | nil => exact ⟨_, _, text_no_items depth, rfl, by decide⟩
      | cons x xs => exact ⟨'[', _, text_array depth x xs, rfl, by decide⟩
  | object members each =>
      cases members with
      | nil => exact ⟨_, _, text_no_members depth, rfl, by decide⟩
      | cons m ms => exact ⟨'\x7b', _, text_object depth m.1 m.2 ms, rfl, by decide⟩

end Text

-- A number stops before the rest of the text.
def Ends (rest : List Char) : Prop := ∀ c ∈ rest.head?, isNumberChar c = false

-- The text is read back from every reader that has as many steps as the text has characters.
def Reads (x : Json) : Prop :=
  ∀ (depth fuel : Nat) (rest : List Char), (textAt depth x).length ≤ fuel → Ends rest →
    readValue fuel (textAt depth x ++ rest) = some (x, rest)

theorem ends_comma (rest : List Char) : Ends (',' :: rest) := by
  intro c same
  cases same
  rfl

theorem ends_line (depth : Nat) (rest : List Char) : Ends (lineAt depth ++ rest) := by
  intro c same
  rw [line_eq] at same
  cases same
  rfl

theorem read_item (fuel : Nat) (x : Json) (cs after : List Char)
    (value : readValue fuel cs = some (x, after)) :
    (∀ rest : List Char, skipBlank after = ']' :: rest →
      readItems (fuel + 1) cs = some ([x], rest)) ∧
    (∀ more : List Char, skipBlank after = ',' :: more →
      readItems (fuel + 1) cs = (readItems fuel more).map fun r => (x :: r.1, r.2)) := by
  rw [readItems, value]
  simp only [Option.bind_eq_bind, Option.bind_some]
  constructor
  · intro rest closed
    rw [closed]
    rfl
  · intro more comma
    simp only [comma]
    cases readItems fuel more <;> rfl

theorem read_items (depth outer fuel : Nat) (x : Json) (xs : List Json) (rest : List Char)
    (each : ∀ y ∈ x :: xs, Reads y)
    (enough : (textAt depth x).length + (itemsAt depth xs).length < fuel) :
    readItems fuel (textAt depth x ++ (itemsAt depth xs ++ (lineAt outer ++ ']' :: rest))) =
      some (x :: xs, rest) := by
  induction xs generalizing x fuel with
  | nil =>
      cases fuel with
      | zero => cases enough
      | succ fuel =>
          have value := each x List.mem_cons_self depth fuel (lineAt outer ++ ']' :: rest)
            (by omega) (ends_line outer _)
          have closed : skipBlank (lineAt outer ++ ']' :: rest) = ']' :: rest := by
            rw [skip_line, skip_none ']' rest rfl]
          rw [no_items, List.nil_append]
          exact (read_item fuel x _ _ value).1 rest closed
  | cons y ys ih =>
      cases fuel with
      | zero => cases enough
      | succ fuel =>
          rw [items_cons, List.length_cons, List.length_append, List.length_append] at enough
          have value (more : List Char) := each x List.mem_cons_self depth fuel (',' :: more)
            (by omega) (ends_comma more)
          have later := ih fuel y (fun z member => each z (List.mem_cons_of_mem x member))
            (by omega)
          rw [items_cons, List.cons_append,
            (read_item fuel x _ _ (value _)).2 _ (skip_none ',' _ rfl), List.append_assoc,
            read_items_line, List.append_assoc, later]
          rfl

theorem read_member (fuel : Nat) (name : String) (x : Json) (cs after : List Char)
    (value : readValue fuel cs = some (x, after)) :
    (∀ rest : List Char, skipBlank after = '\x7d' :: rest →
      readMembers (fuel + 1) (quoted name ++ (':' :: ' ' :: cs)) = some ([(name, x)], rest)) ∧
    (∀ more : List Char, skipBlank after = ',' :: more →
      readMembers (fuel + 1) (quoted name ++ (':' :: ' ' :: cs)) =
        (readMembers fuel more).map fun r => ((name, x) :: r.1, r.2)) := by
  rw [quoted_eq, List.cons_append, readMembers, skip_none '"' _ rfl]
  simp only [List.append_assoc, List.singleton_append, read_quoted, Option.bind_eq_bind,
    Option.bind_some]
  rw [skip_none ':' _ rfl]
  simp only [read_value_space, value, Option.bind_some, String.ofList_toList]
  constructor
  · intro rest closed
    simp only [closed]
  · intro more comma
    simp only [comma]
    cases readMembers fuel more <;> rfl

theorem read_members (depth outer fuel : Nat) (name : String) (x : Json)
    (ms : List (String × Json)) (rest : List Char) (first : Reads x) (each : ∀ m ∈ ms, Reads m.2)
    (enough : (textAt depth x).length + (membersAt depth ms).length < fuel) :
    readMembers fuel (quoted name ++ (':' :: ' ' :: (textAt depth x ++ (membersAt depth ms ++
      (lineAt outer ++ '\x7d' :: rest))))) = some ((name, x) :: ms, rest) := by
  induction ms generalizing name x fuel with
  | nil =>
      cases fuel with
      | zero => cases enough
      | succ fuel =>
          have value := first depth fuel (lineAt outer ++ '\x7d' :: rest) (by omega)
            (ends_line outer _)
          have closed : skipBlank (lineAt outer ++ '\x7d' :: rest) = '\x7d' :: rest := by
            rw [skip_line, skip_none '\x7d' rest rfl]
          rw [no_members, List.nil_append]
          exact (read_member fuel name x _ _ value).1 rest closed
  | cons m ms ih =>
      cases fuel with
      | zero => cases enough
      | succ fuel =>
          obtain ⟨next, y⟩ := m
          rw [members_cons, List.length_cons, List.length_append, List.length_append,
            List.length_cons, List.length_cons, List.length_append] at enough
          have value (more : List Char) := first depth fuel (',' :: more) (by omega)
            (ends_comma more)
          have later := ih fuel next y (each (next, y) List.mem_cons_self)
            (fun n member => each n (List.mem_cons_of_mem _ member)) (by omega)
          rw [members_cons, List.cons_append,
            (read_member fuel name x _ _ (value _)).2 _ (skip_none ',' _ rfl)]
          simp only [List.append_assoc, List.cons_append]
          rw [read_members_line, later]
          rfl

theorem read_number (fuel : Nat) (lexeme : String) (rest : List Char) (some : lexeme ≠ "")
    (chars : lexeme.toList.all isNumberChar = true) (ends : Ends rest) :
    readValue (fuel + 1) (lexeme.toList ++ rest) = .some (.number lexeme, rest) := by
  obtain ⟨c, cs, spelled⟩ := List.exists_cons_of_ne_nil
    (fun empty => some (String.toList_eq_nil_iff.mp empty))
  have all := List.all_eq_true.mp chars
  have first : isNumberChar c = true := all c (by rw [spelled]; exact List.mem_cons_self)
  have taken : (lexeme.toList ++ rest).takeWhile isNumberChar = lexeme.toList := by
    rw [List.takeWhile_append_of_pos all]
    cases rest with
    | nil => simp
    | cons d rest => simp [ends d rfl]
  have dropped : (lexeme.toList ++ rest).dropWhile isNumberChar = rest := by
    rw [List.dropWhile_append_of_pos all]
    cases rest with
    | nil => rfl
    | cons d rest => simp [ends d rfl]
  have whole : skipBlank (lexeme.toList ++ rest) = lexeme.toList ++ rest := by
    rw [spelled, List.cons_append, skip_none c _ (number_not_blank c first)]
  have head (d : Char) (ds : List Char) (same : lexeme.toList ++ rest = d :: ds) :
      isNumberChar d = true := by
    rw [spelled] at same
    cases same
    exact first
  rw [readValue, whole]
  split
  case h_7 =>
    rw [taken, dropped]
    simp [some]
  all_goals
    next same => exact absurd (head _ _ same) (by decide)

-- With a step for each character of its text, the reader never runs out of steps.
theorem reads_of_steps (x : Json) (lexical : Lexical x)
    (reads : ∀ (depth fuel : Nat) (rest : List Char), (textAt depth x).length ≤ fuel + 1 →
      Ends rest → readValue (fuel + 1) (textAt depth x ++ rest) = some (x, rest)) : Reads x := by
  intro depth fuel rest enough ends
  cases fuel with
  | succ fuel => exact reads depth fuel rest enough ends
  | zero =>
      obtain ⟨c, cs, spelled, -⟩ := text_begins depth x lexical
      rw [spelled] at enough
      cases enough

theorem reads_of_lexical (x : Json) (lexical : Lexical x) : Reads x := by
  induction lexical with
  | null =>
      refine reads_of_steps _ .null fun depth fuel rest _ _ => ?_
      rw [text_null, List.cons_append, readValue, skip_none 'n' _ rfl]
      rfl
  | bool value =>
      refine reads_of_steps _ (.bool value) fun depth fuel rest _ _ => ?_
      cases value with
      | true =>
          rw [text_true, List.cons_append, readValue, skip_none 't' _ rfl]
          rfl
      | false =>
          rw [text_false, List.cons_append, readValue, skip_none 'f' _ rfl]
          rfl
  | number lexeme some chars =>
      refine reads_of_steps _ (.number lexeme some chars) fun depth fuel rest _ ends => ?_
      rw [text_number]
      exact read_number fuel lexeme rest some chars ends
  | string value =>
      refine reads_of_steps _ (.string value) fun depth fuel rest _ _ => ?_
      rw [text_string, quoted_eq, List.cons_append, readValue, skip_none '"' _ rfl]
      simp [read_quoted]
  | array items each ih =>
      refine reads_of_steps _ (.array items each) fun depth fuel rest enough _ => ?_
      cases items with
      | nil =>
          rw [text_no_items, List.cons_append, readValue, skip_none '[' _ rfl]
          rfl
      | cons x xs =>
          rw [text_array] at enough ⊢
          simp only [List.length_cons, List.length_append] at enough
          have items := read_items (depth + 1) depth fuel x xs rest ih (by omega)
          obtain ⟨c, cs, spelled, plain, other⟩ := text_begins (depth + 1) x
            (each x List.mem_cons_self)
          rw [List.cons_append, readValue, skip_none '[' _ rfl]
          simp only [List.append_assoc, List.singleton_append]
          rw [spelled, List.cons_append] at items
          rw [skip_line, spelled, List.cons_append, skip_none c _ plain]
          split
          · next same => exact absurd (List.cons.inj same).1 other
          · rw [items]
            rfl
  | object members each ih =>
      refine reads_of_steps _ (.object members each) fun depth fuel rest enough _ => ?_
      cases members with
      | nil =>
          rw [text_no_members, List.cons_append, readValue, skip_none '\x7b' _ rfl]
          rfl
      | cons m ms =>
          obtain ⟨name, x⟩ := m
          rw [text_object] at enough ⊢
          simp only [List.length_cons, List.length_append] at enough
          have members := read_members (depth + 1) depth fuel name x ms rest
            (ih _ List.mem_cons_self) (fun n member => ih n (List.mem_cons_of_mem _ member))
            (by omega)
          rw [List.cons_append, readValue, skip_none '\x7b' _ rfl]
          simp only [List.append_assoc, List.cons_append]
          rw [quoted_eq, List.cons_append] at members
          rw [skip_line, quoted_eq, List.cons_append, skip_none '"' _ rfl]
          exact congrArg (Option.map _) members

theorem of_text_pretty (x : Json) (lexical : Lexical x) : ofText? x.pretty = some x := by
  have read := reads_of_lexical x lexical 0 (2 * (textAt 0 x).length + 2) [] (by omega)
    (by simp [Ends])
  rw [List.append_nil] at read
  rw [ofText?, pretty]
  change (readValue (2 * (textAt 0 x).length + 2) (textAt 0 x)).bind _ = _
  rw [read]
  rfl

theorem pretty_injective (x y : Json) (left : Lexical x) (right : Lexical y)
    (same : x.pretty = y.pretty) : x = y := by
  have read := congrArg ofText? same
  rwa [of_text_pretty x left, of_text_pretty y right, Option.some.injEq] at read

end FlowDefs.Json
