import FlowDefs.Proofs.Syntax.Subtree
set_option autoImplicit false

namespace FlowDefs.Node

mutual
def uncommented : Node → Node
  | ⟨kind, fields, named, span, text, parent, children⟩ =>
    ⟨kind, fields, named, span, text, parent, uncommentedAll children⟩
def uncommentedAll : List Node → List Node
  | [] => []
  | c :: cs => if c.isComment then uncommentedAll cs else uncommented c :: uncommentedAll cs
end

-- Some of the comments are left out, each with all that is below it.
mutual
inductive Thinned : Node → Node → Prop where
  | node (kind : String) (fields : List String) (named : Bool) (span : Span) (text parent : String)
      (cs ds : List Node) (children : ThinnedAll cs ds) :
      Thinned ⟨kind, fields, named, span, text, parent, cs⟩
        ⟨kind, fields, named, span, text, parent, ds⟩
inductive ThinnedAll : List Node → List Node → Prop where
  | nil : ThinnedAll [] []
  | keep (c d : Node) (cs ds : List Node) (node : Thinned c d) (rest : ThinnedAll cs ds) :
      ThinnedAll (c :: cs) (d :: ds)
  | drop (c : Node) (cs ds : List Node) (comment : c.isComment = true)
      (rest : ThinnedAll cs ds) : ThinnedAll (c :: cs) ds
end

def PlainComment (c : Node) : Prop := c.isComment = true → c.named = true ∧ c.fields = []

def PlainComments (n : Node) : Prop := ∀ c ∈ n.nodes, c.PlainComment

theorem plain_inside (d n : Node) (plain : n.PlainComments) (inside : d ∈ n.nodes) :
    d.PlainComments :=
  fun c deeper => plain c (nodes_trans c d n deeper inside)

theorem plain_child (c n : Node) (plain : n.PlainComments) (child : c ∈ n.children) :
    c.PlainComment :=
  plain c (child_mem_nodes c c n child (self_mem_nodes c))

theorem thinned_labels (n m : Node) (thinned : Thinned n m) :
    m.kind = n.kind ∧ m.fields = n.fields ∧ m.named = n.named := by
  cases thinned
  exact ⟨rfl, rfl, rfl⟩

theorem thinned_comment (n m : Node) (thinned : Thinned n m) : m.isComment = n.isComment := by
  unfold isComment
  rw [(thinned_labels n m thinned).1]

mutual
theorem thinned_uncommented (n m : Node) (thinned : Thinned n m) :
    m.uncommented = n.uncommented := by
  cases thinned with
  | node kind fields named span text parent cs ds children =>
      rw [uncommented, uncommented, thinned_uncommented_all cs ds children]
theorem thinned_uncommented_all (cs ds : List Node) (thinned : ThinnedAll cs ds) :
    uncommentedAll ds = uncommentedAll cs := by
  cases thinned with
  | nil => rfl
  | keep c d cs ds node rest =>
      rw [uncommentedAll, uncommentedAll, thinned_comment c d node, thinned_uncommented c d node,
        thinned_uncommented_all cs ds rest]
  | drop c cs _ comment rest =>
      rw [uncommentedAll, if_pos comment, thinned_uncommented_all cs ds rest]
end

mutual
theorem thinned_plain (n m : Node) (thinned : Thinned n m) (plain : n.PlainComments) :
    m.PlainComments := by
  have root : m.PlainComment := by
    obtain ⟨_, fields, named⟩ := thinned_labels n m thinned
    intro comment
    rw [thinned_comment n m thinned] at comment
    rw [fields, named]
    exact plain n (self_mem_nodes n) comment
  cases thinned with
  | node kind fields named span text parent cs ds children =>
      intro d inside
      rcases (mem_nodes d _).mp inside with rfl | deeper
      · exact root
      · refine thinned_plain_all cs ds children ?_ d ((mem_nodes_of_all d ds).mpr deeper)
        intro c listed
        exact plain c ((mem_nodes c _).mpr (.inr ((mem_nodes_of_all c cs).mp listed)))
theorem thinned_plain_all (cs ds : List Node) (thinned : ThinnedAll cs ds)
    (plain : ∀ c ∈ nodesOfAll cs, c.PlainComment) : ∀ d ∈ nodesOfAll ds, d.PlainComment := by
  cases thinned with
  | nil => exact plain
  | keep c d cs ds node rest =>
      have first := thinned_plain c d node fun e inside =>
        plain e (List.mem_append_left _ inside)
      have later := thinned_plain_all cs ds rest fun e inside =>
        plain e (List.mem_append_right _ inside)
      intro e inside
      rcases List.mem_append.mp inside with here | there
      · exact first e here
      · exact later e there
  | drop c cs _ comment rest =>
      exact thinned_plain_all cs ds rest fun e inside => plain e (List.mem_append_right _ inside)
end

@[simp] theorem uncommented_kind (n : Node) : n.uncommented.kind = n.kind := by cases n; rfl

@[simp] theorem uncommented_fields (n : Node) : n.uncommented.fields = n.fields := by cases n; rfl

@[simp] theorem uncommented_named (n : Node) : n.uncommented.named = n.named := by cases n; rfl

@[simp] theorem uncommented_text (n : Node) : n.uncommented.text = n.text := by cases n; rfl

@[simp] theorem uncommented_parent (n : Node) : n.uncommented.parent = n.parent := by cases n; rfl

@[simp] theorem uncommented_quote (n : Node) : n.uncommented.quote = n.quote := by cases n; rfl

theorem uncommented_children (n : Node) :
    n.uncommented.children = uncommentedAll n.children := by
  cases n
  rfl

theorem uncommented_all_eq (cs : List Node) :
    uncommentedAll cs = (cs.filter fun c => !c.isComment).map uncommented := by
  induction cs with
  | nil => rfl
  | cons c cs ih =>
      rw [uncommentedAll, ih, List.filter_cons]
      cases c.isComment <;> rfl

-- A test that tells only by the labels of a node, and is false of comments, sees no difference.
theorem find_uncommented (p : Node → Bool) (labels : ∀ c : Node, p c.uncommented = p c)
    (cs : List Node) (other : ∀ c ∈ cs, c.isComment = true → p c = false) :
    (uncommentedAll cs).find? p = (cs.find? p).map uncommented := by
  induction cs with
  | nil => rfl
  | cons c cs ih =>
      have later := ih fun d member => other d (List.mem_cons_of_mem c member)
      by_cases comment : c.isComment = true
      · rw [uncommentedAll, if_pos comment, later, List.find?_cons,
          other c List.mem_cons_self comment]
      · rw [uncommentedAll, if_neg comment, List.find?_cons, List.find?_cons, labels, later]
        cases p c <;> rfl

@[simp] theorem uncommented_parts (n : Node) : n.uncommented.parts = n.parts.map uncommented := by
  have same : ((fun c : Node => c.named && !c.isComment) ∘ uncommented) =
      fun c => c.named && !c.isComment := by
    funext c
    simp [isComment]
  unfold parts
  rw [uncommented_children, uncommented_all_eq, List.filter_map, same, List.filter_filter]
  congr 1
  apply List.filter_congr
  intro c _
  cases c.named <;> cases c.isComment <;> rfl

@[simp] theorem uncommented_first_part (n : Node) :
    n.uncommented.firstPart? = n.firstPart?.map uncommented := by
  rw [firstPart?, uncommented_parts, List.head?_map]
  rfl

theorem uncommented_child_of_kind (n : Node) (kind : String) (other : kind ≠ "comment") :
    n.uncommented.childOfKind? kind = (n.childOfKind? kind).map uncommented := by
  unfold childOfKind?
  rw [uncommented_children]
  refine find_uncommented _ (by simp) n.children ?_
  intro c _ comment
  have same : c.kind = "comment" := of_decide_eq_true comment
  simp [same, Ne.symm other]

theorem uncommented_field (n : Node) (plain : n.PlainComments) (name : String) :
    n.uncommented.field? name = (n.field? name).map uncommented := by
  unfold field?
  rw [uncommented_children]
  refine find_uncommented _ (by simp) n.children ?_
  intro c child comment
  rw [(plain_child c n plain child comment).2]
  rfl

theorem uncommented_token (n : Node) (plain : n.PlainComments) (token : String) :
    n.uncommented.hasToken token = n.hasToken token := by
  unfold hasToken
  rw [uncommented_children, ← List.isSome_find?, ← List.isSome_find?, find_uncommented]
  · exact Option.isSome_map
  · simp
  · intro c child comment
    rw [(plain_child c n plain child comment).1]
    rfl

theorem uncommented_mapped (n : Node) :
    Construct.isMapped n.uncommented = Construct.isMapped n := by
  unfold Construct.isMapped
  rw [uncommented_parts]
  rcases n.parts with _ | ⟨only, _ | ⟨second, more⟩⟩
  · rfl
  · rw [List.map_singleton]
    simp only [uncommented_child_of_kind only "mapped_type_clause" (by decide),
      Option.isSome_map, uncommented_kind]
  · rfl

theorem uncommented_construct (n : Node) (plain : n.PlainComments) :
    n.uncommented.construct = n.construct := by
  unfold construct Construct.ofNode Construct.ofExport
  rw [uncommented_kind, uncommented_text, uncommented_parent, uncommented_mapped]
  simp only [uncommented_token n plain, uncommented_field n plain,
    uncommented_child_of_kind n "import_require_clause" (by decide),
    uncommented_child_of_kind n "undefined" (by decide), Option.isSome_map]

theorem uncommented_describe (n : Node) (plain : n.PlainComments) :
    n.uncommented.describe = n.describe := by
  unfold describe
  rw [uncommented_construct n plain, uncommented_kind]

end FlowDefs.Node
