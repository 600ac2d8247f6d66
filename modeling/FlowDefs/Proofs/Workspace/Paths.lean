import FlowDefs.Workspace.Path
set_option autoImplicit false

namespace FlowDefs

-- A piece that leads nowhere else.
def isSilent (segment : String) : Bool := segment = "" || segment = "."

-- A name that a file or a directory can have.
def IsName (name : String) : Prop := isSilent name = false ∧ name ≠ ".."

instance (name : String) : Decidable (IsName name) :=
  inferInstanceAs (Decidable (isSilent name = false ∧ name ≠ ".."))

theorem name_nonempty (name : String) (named : IsName name) : name ≠ "" := by
  rintro rfl
  exact absurd named.1 (by decide)

namespace Path

def spoken (segments : List String) : List String := segments.filter fun s => !isSilent s

def names (p : Path) : List String := spoken p.segments

theorem spoken_skips (segment : String) (segments : List String) (silent : isSilent segment = true) :
    spoken (segment :: segments) = spoken segments := List.filter_cons_of_neg (by simp [silent])

theorem spoken_keeps (segment : String) (segments : List String)
    (named : isSilent segment = false) :
    spoken (segment :: segments) = segment :: spoken segments :=
  List.filter_cons_of_pos (by simp [named])

theorem spoken_append (left right : List String) :
    spoken (left ++ right) = spoken left ++ spoken right := List.filter_append ..

theorem spoken_names (names : List String) (proper : ∀ name ∈ names, IsName name) :
    spoken names = names := by
  apply List.filter_eq_self.mpr
  intro name member
  simp [(proper name member).1]

theorem spoken_reverse (segments : List String) :
    spoken segments.reverse = (spoken segments).reverse := List.filter_reverse ..

theorem spoken_drop_silent (segments : List String) :
    spoken (dropSilent segments) = spoken segments := by
  induction segments using dropSilent.induct with
  | case1 => rfl
  | case2 first => rfl
  | case3 s t rest silent ih =>
      rw [dropSilent, if_pos silent, ih]
      have quiet : isSilent s = true := by simpa [isSilent] using silent
      exact (spoken_skips s (t :: rest) quiet).symm
  | case4 s t rest loud => rw [dropSilent, if_neg loud]

theorem drop_silent_name (name : String) (segments : List String) (named : IsName name) :
    dropSilent (name :: segments) = name :: segments := by
  cases segments with
  | nil => rfl
  | cons s rest =>
      have loud : ¬ (name = "" ∨ name = ".") := by simpa [isSilent] using named.1
      rw [dropSilent, if_neg loud]

theorem significant_names (p : Path) : spoken p.significant = p.names := by
  rw [significant, spoken_reverse, spoken_drop_silent, spoken_reverse, List.reverse_reverse, names]

-- A path that ends with a name.
structure EndsWith (p : Path) (before : List String) (name : String) : Prop where
  segments : p.segments = before ++ [name]
  named : IsName name

variable (p : Path)

theorem ends_names (before : List String) (name : String) (ends : p.EndsWith before name) :
    p.names = spoken before ++ [name] := by
  rw [names, ends.segments, spoken_append, spoken_names [name] (by simp [ends.named])]

theorem ends_significant (before : List String) (name : String) (ends : p.EndsWith before name) :
    p.significant = before ++ [name] := by
  rw [significant, ends.segments, List.reverse_append, List.reverse_singleton,
    List.singleton_append, drop_silent_name name _ ends.named, List.reverse_cons,
    List.reverse_reverse]

theorem ends_file_name (before : List String) (name : String) (ends : p.EndsWith before name) :
    p.fileName? = some name := by
  have loud : name ≠ "" ∧ name ≠ "." := by simpa [isSilent] using ends.named.1
  simp [fileName?, ends_significant p before name ends, loud, ends.named.2]

theorem file_name_last (name : String) (found : p.fileName? = some name) :
    IsName name ∧ ∃ before, p.significant = before ++ [name] := by
  obtain ⟨last, proper⟩ := Option.filter_eq_some_iff.mp found
  obtain ⟨before, same⟩ := List.getLast?_eq_some_iff.mp last
  refine ⟨?_, before, same⟩
  simpa [IsName, isSilent, and_assoc] using proper

theorem parent_names : p.parent.names = spoken p.significant.dropLast := by
  have left : spoken (dropSilent p.significant.dropLast.reverse).reverse =
      spoken p.significant.dropLast := by
    rw [spoken_reverse, spoken_drop_silent, spoken_reverse, List.reverse_reverse]
  rw [← left]
  unfold parent
  split
  · next empty => rw [empty]; rfl
  · next root => rw [root]; rfl
  · rfl

theorem file_parent_names (name : String) (found : p.fileName? = some name) :
    p.parent.names = p.names.dropLast := by
  obtain ⟨proper, before, same⟩ := file_name_last p name found
  have spelled := significant_names p
  rw [same, spoken_append, spoken_names [name] (by simp [proper])] at spelled
  rw [parent_names, same, ← spelled, List.dropLast_concat, List.dropLast_concat]

theorem spoken_drop_last (segments : List String) (slash : segments.getLast? = some "") :
    spoken segments.dropLast = spoken segments := by
  obtain ⟨before, rfl⟩ := List.getLast?_eq_some_iff.mp slash
  rw [List.dropLast_concat, spoken_append]
  exact (List.append_nil _).symm

theorem below_spoken (inner : List String) : (p.below inner).names = p.names ++ spoken inner := by
  have base : spoken (if p.segments.getLast? = some "" then p.segments.dropLast else p.segments) =
      p.names := by
    split
    · next slash => exact spoken_drop_last p.segments slash
    · rfl
  rw [names, below, spoken_append, base]
  cases inner <;> rfl

theorem below_names (inner : List String) (proper : ∀ name ∈ inner, IsName name) :
    (p.below inner).names = p.names ++ inner := by
  rw [below_spoken, spoken_names inner proper]

theorem below_ends (inner : List String) (name : String) (proper : IsName name) :
    ∃ before, (p.below (inner ++ [name])).EndsWith before name := by
  refine ⟨(if p.segments.getLast? = some "" then p.segments.dropLast else p.segments) ++ inner,
    ?_, proper⟩
  simp [below]

-- A slash at the end of a path leaves its last name.
theorem below_nothing_file_name : (p.below []).fileName? = p.fileName? := by
  have slash (before : List String) : (⟨before ++ [""]⟩ : Path).fileName? = (⟨before⟩ : Path).fileName? := by
    rcases List.eq_nil_or_concat before with rfl | ⟨rest, last, rfl⟩
    · rfl
    · simp [fileName?, significant, dropSilent]
  obtain ⟨segments⟩ := p
  by_cases last : segments.getLast? = some ""
  · obtain ⟨before, rfl⟩ := List.getLast?_eq_some_iff.mp last
    simp [below]
  · simp [below, last, slash]

theorem with_file_name_names (name : String) (proper : IsName name) :
    (p.withFileName name).names =
      (if p.fileName?.isSome then p.names.dropLast else p.names) ++ [name] := by
  have single : ∀ n ∈ [name], IsName n := by simp [proper]
  unfold withFileName
  by_cases named : p.fileName?.isSome = true
  · obtain ⟨old, found⟩ := Option.isSome_iff_exists.mp named
    rw [if_pos named, if_pos named, below_names _ _ single, file_parent_names p old found]
  · rw [if_neg named, if_neg named, below_names _ _ single]

theorem with_file_name_ends (name : String) (proper : IsName name) :
    ∃ before, (p.withFileName name).EndsWith before name := by
  unfold withFileName
  split
  · exact below_ends p.parent [] name proper
  · exact below_ends p [] name proper

theorem drop_silent_last (segments : List String) :
    (dropSilent segments).getLast? = segments.getLast? := by
  induction segments using dropSilent.induct with
  | case1 => rfl
  | case2 first => rfl
  | case3 s t rest silent ih => rw [dropSilent, if_pos silent, ih, List.getLast?_cons_cons]
  | case4 s t rest loud => rw [dropSilent, if_neg loud]

theorem below_absolute (inner : List String) (proper : ∀ first ∈ inner.head?, first ≠ "") :
    (p.below inner).isAbsolute = p.isAbsolute := by
  obtain ⟨segments⟩ := p
  rcases segments with _ | ⟨a, _ | ⟨b, rest⟩⟩
  · cases inner with
    | nil => rfl
    | cons first inner => simp [below, isAbsolute, proper first rfl]
  · by_cases empty : a = ""
    · cases inner with
      | nil => simp [below, isAbsolute, empty]
      | cons first inner => simp [below, isAbsolute, empty, proper first rfl]
    · cases inner <;> simp [below, isAbsolute, empty]
  · by_cases slash : (b :: rest).getLast? = some ""
    · cases inner with
      | nil => simp [below, isAbsolute, List.getLast?_cons_cons, slash]
      | cons first inner =>
          have longer : 0 < rest.length + (inner.length + 1) := by omega
          simp [below, isAbsolute, List.getLast?_cons_cons, slash, longer]
    · cases inner <;> simp [below, isAbsolute, List.getLast?_cons_cons, slash]

theorem parent_absolute_iff :
    p.parent.isAbsolute = true ↔ p.significant.dropLast.head? = some "" := by
  have first : (dropSilent p.significant.dropLast.reverse).reverse.head? =
      p.significant.dropLast.head? := by
    rw [List.head?_reverse, drop_silent_last, List.getLast?_reverse]
  rw [← first]
  unfold parent
  split
  · next empty => simp [empty, isAbsolute]
  · next root => simp [root, isAbsolute]
  · next nonempty notRoot =>
      generalize (dropSilent p.significant.dropLast.reverse).reverse = left at nonempty notRoot
      rcases left with _ | ⟨a, _ | ⟨b, rest⟩⟩
      · exact absurd rfl nonempty
      · have named : a ≠ "" := fun same => notRoot (by rw [same])
        simp [isAbsolute, named]
      · simp [isAbsolute]

theorem file_parent_absolute (name : String) (found : p.fileName? = some name) :
    p.parent.isAbsolute = p.isAbsolute := by
  obtain ⟨proper, before, same⟩ := file_name_last p name found
  have named : name ≠ "" := name_nonempty name proper
  have first : p.segments.head? = (before ++ [name]).head? := by
    rw [← same, significant, List.head?_reverse, drop_silent_last, List.getLast?_reverse]
  rw [Bool.eq_iff_iff, parent_absolute_iff, same, List.dropLast_concat]
  obtain ⟨segments⟩ := p
  rcases segments with _ | ⟨a, _ | ⟨b, rest⟩⟩
  · cases before <;> cases first
  · cases before with
    | nil => simp_all [isAbsolute]
    | cons c before =>
        have single : (⟨[a]⟩ : Path).significant = [a] := rfl
        rw [single] at same
        simp at same
  · cases before with
    | nil => simp_all [isAbsolute]
    | cons c before => simp_all [isAbsolute]

theorem with_file_name_absolute (name : String) (proper : IsName name) :
    (p.withFileName name).isAbsolute = p.isAbsolute := by
  have single : ∀ first ∈ [name].head?, first ≠ "" := by
    simpa using name_nonempty name proper
  unfold withFileName
  by_cases named : p.fileName?.isSome = true
  · obtain ⟨old, found⟩ := Option.isSome_iff_exists.mp named
    rw [if_pos named, below_absolute _ _ single, file_parent_absolute p old found]
  · rw [if_neg named, below_absolute _ _ single]

end Path

end FlowDefs
