import FlowDefs.Proofs.Conversion.Refinement
set_option autoImplicit false

namespace FlowDefs

theorem content_binds_imports_only (body : Node) (other : body.construct ≠ .importDeclaration) :
    (Content.ofBody body).bindings = [] := by
  unfold Content.ofBody
  split
  case h_1 h => exact absurd h other
  case h_2 =>
    unfold Content.ofExportAssignment
    split
    · rfl
    · split
      · split <;> rfl
      · rfl
  case h_3 =>
    unfold Content.ofVariables
    dsimp only
    split <;> rfl
  case h_4 =>
    unfold Content.ofTypeAlias
    split
    · rfl
    · split <;> rfl
  case h_5 =>
    unfold Content.ofFunction
    split <;> rfl
  case h_6 => split <;> rfl

namespace Session

-- A session at the start of its work, with the bindings that earlier statements left.
def fresh (bindings : Bindings) : Session := ⟨bindings, [], []⟩

-- What converting a sequence of statements from the start leaves bound.
def boundBy (catalog : Catalog) (statements : List SourceStatement) : Bindings :=
  (start.convertAll catalog statements).2.bindings

-- A statement in a session of its own, after the imports of the statements before it.
def convertAlone (catalog : Catalog) (before : List SourceStatement) (s : SourceStatement) :
    Statement × Session :=
  (fresh (boundBy catalog before)).convert catalog s

theorem convert_fresh (catalog : Catalog) (session : Session) (s : SourceStatement) :
    session.convert catalog s =
      let alone := (fresh session.bindings).convert catalog s
      (alone.1, ⟨alone.2.bindings, addImports session.imports alone.2.imports,
        session.diagnostics ++ alone.2.diagnostics⟩) := by
  simp only [convert_eq, absorb, fresh, add_imports_nil, add_imports_erase_dups, List.nil_append]

theorem convert_keeps_bindings (catalog : Catalog) (session : Session) (s : SourceStatement)
    (other : s.body.construct ≠ .importDeclaration) :
    (session.convert catalog s).2.bindings = session.bindings := by
  have none : s.content.bindings = [] := content_binds_imports_only s.body other
  simp [convert_eq, none, Bindings.bindAll]

theorem convert_all_bindings (catalog : Catalog) (session : Session)
    (statements : List SourceStatement) :
    (session.convertAll catalog statements).2.bindings =
      statements.foldl (fun bound s => bound.bindAll s.content.bindings) session.bindings := by
  induction statements generalizing session with
  | nil => rfl
  | cons s statements ih =>
      rw [List.foldl_cons, convertAll, ih, convert_eq]

-- The run from any session; each statement still stands alone after the bindings before it.
theorem convert_all_apart (catalog : Catalog) (session : Session)
    (statements : List SourceStatement) :
    let alone := fun i s => (fresh (session.convertAll catalog (statements.take i)).2.bindings).convert catalog s
    (session.convertAll catalog statements).1 = statements.mapIdx (fun i s => (alone i s).1) ∧
      (session.convertAll catalog statements).2.imports =
        addImports session.imports (statements.mapIdx fun i s => (alone i s).2.imports).flatten ∧
      (session.convertAll catalog statements).2.diagnostics =
        session.diagnostics ++ (statements.mapIdx fun i s => (alone i s).2.diagnostics).flatten := by
  induction statements generalizing session with
  | nil => simp [convertAll, addImports]
  | cons s statements ih =>
      obtain ⟨body, imports, diagnostics⟩ := ih (session.convert catalog s).2
      have first := convert_fresh catalog session s
      refine ⟨?_, ?_, ?_⟩
      · rw [List.mapIdx_cons]
        have value : (session.convert catalog s).1 =
            ((fresh session.bindings).convert catalog s).1 := by rw [first]
        exact List.cons_eq_cons.mpr ⟨value, body⟩
      · rw [List.mapIdx_cons, List.flatten_cons, add_imports_append]
        have added : (session.convert catalog s).2.imports = addImports session.imports
            ((fresh session.bindings).convert catalog s).2.imports := by rw [first]
        rw [added] at imports
        exact imports
      · rw [List.mapIdx_cons, List.flatten_cons, ← List.append_assoc]
        have added : (session.convert catalog s).2.diagnostics =
            session.diagnostics ++ ((fresh session.bindings).convert catalog s).2.diagnostics := by
          rw [first]
        rw [added] at diagnostics
        exact diagnostics

theorem bound_by_set (catalog : Catalog) (statements : List SourceStatement) (i : Nat)
    (s : SourceStatement) (other : s.body.construct ≠ .importDeclaration)
    (replaced : ∀ old, statements[i]? = some old → old.body.construct ≠ .importDeclaration) :
    boundBy catalog (statements.set i s) = boundBy catalog statements := by
  unfold boundBy
  rw [convert_all_bindings, convert_all_bindings]
  generalize start.bindings = bound
  induction statements generalizing i bound with
  | nil => rfl
  | cons head statements ih =>
      cases i with
      | zero =>
          have new : s.content.bindings = [] := content_binds_imports_only s.body other
          have old : head.content.bindings = [] :=
            content_binds_imports_only head.body (replaced head rfl)
          simp [new, old]
      | succ i => exact ih i replaced _

end Session

theorem convert_file_apart (catalog : Catalog) (name : String) (root : Node) :
    let alone := fun i => Session.convertAlone catalog (root.statements.take i)
    (convertFile catalog name root).file.body =
        root.statements.mapIdx (fun i s => (alone i s).1) ∧
      (convertFile catalog name root).file.imports =
        ((root.statements.mapIdx fun i s => (alone i s).2.imports).flatten.eraseDups).map
          Substitution.declaration ∧
      (convertFile catalog name root).diagnostics =
        (root.statements.mapIdx fun i s => (alone i s).2.diagnostics).flatten := by
  obtain ⟨body, imports, diagnostics⟩ := Session.convert_all_apart catalog .start root.statements
  refine ⟨body, ?_, diagnostics⟩
  rw [← Session.add_imports_nil]
  exact congrArg (List.map Substitution.declaration) imports

theorem convert_file_set (catalog : Catalog) (name : String) (root changed : Node) (i j : Nat)
    (s : SourceStatement) (changes : changed.statements = root.statements.set i s)
    (other : s.body.construct ≠ .importDeclaration)
    (replaced : ∀ old, root.statements[i]? = some old → old.body.construct ≠ .importDeclaration)
    (elsewhere : j ≠ i) :
    (convertFile catalog name changed).file.body[j]? =
      (convertFile catalog name root).file.body[j]? := by
  rw [(convert_file_apart catalog name changed).1, (convert_file_apart catalog name root).1]
  rw [List.getElem?_mapIdx, List.getElem?_mapIdx, changes, List.getElem?_set_ne elsewhere.symm]
  have same : Session.boundBy catalog ((root.statements.set i s).take j) =
      Session.boundBy catalog (root.statements.take j) := by
    rw [List.take_set]
    apply Session.bound_by_set catalog _ i s other
    intro old found
    rw [List.getElem?_take] at found
    split at found
    · exact replaced old found
    · cases found
  simp only [Session.convertAlone, same]

-- The result of a file by its statements, each converted alone; a session's earlier imports and
-- diagnostics are only added to; and only imports are seen by other statements.
theorem statements_stand_alone (catalog : Catalog) (name : String) (root : Node) :
    let alone := fun i => Session.convertAlone catalog (root.statements.take i)
    let converted := convertFile catalog name root
    converted.file.body.length = root.statements.length ∧
      converted.file.body = root.statements.mapIdx (fun i s => (alone i s).1) ∧
      converted.diagnostics = (root.statements.mapIdx fun i s => (alone i s).2.diagnostics).flatten ∧
      converted.file.imports =
        ((root.statements.mapIdx fun i s => (alone i s).2.imports).flatten.eraseDups).map
          Substitution.declaration ∧
      (∀ (session : Session) (s : SourceStatement),
        let own := (Session.fresh session.bindings).convert catalog s
        session.convert catalog s = (own.1, ⟨own.2.bindings,
          Session.addImports session.imports own.2.imports,
          session.diagnostics ++ own.2.diagnostics⟩)) ∧
      (∀ (session : Session) (s : SourceStatement), s.body.construct ≠ .importDeclaration →
        (session.convert catalog s).2.bindings = session.bindings) ∧
      ∀ (changed : Node) (i j : Nat) (s : SourceStatement),
        changed.statements = root.statements.set i s → s.body.construct ≠ .importDeclaration →
        (∀ old, root.statements[i]? = some old → old.body.construct ≠ .importDeclaration) →
        j ≠ i → (convertFile catalog name changed).file.body[j]? = converted.file.body[j]? := by
  obtain ⟨body, imports, diagnostics⟩ := convert_file_apart catalog name root
  refine ⟨?_, body, diagnostics, imports, Session.convert_fresh catalog,
    Session.convert_keeps_bindings catalog, ?_⟩
  · rw [body, List.length_mapIdx]
  · intro changed i j s changes other replaced elsewhere
    exact convert_file_set catalog name root changed i j s changes other replaced elsewhere

def aliasBeside (other : Node) : Node :=
  let any : Node := ⟨"predefined_type", ["value"], true, ⟨9, 12⟩, "any", "type_alias_declaration", []⟩
  let id : Node := ⟨"type_identifier", ["name"], true, ⟨5, 6⟩, "A", "type_alias_declaration", []⟩
  let first : Node := ⟨"type_alias_declaration", [], true, ⟨0, 13⟩, "type A = any;", "program",
    [id, any]⟩
  ⟨"program", [], true, ⟨0, 28⟩, "", "", [first, other]⟩

def emptyInterface : Node :=
  ⟨"interface_declaration", [], true, ⟨14, 28⟩, "interface I \x7b\x7d", "program", []⟩

def emptyClass : Node := ⟨"class_declaration", [], true, ⟨14, 24⟩, "class C \x7b\x7d", "program", []⟩

theorem alias_unaffected_by_neighbour :
    (aliasBeside emptyClass).statements =
        (aliasBeside emptyInterface).statements.set 1 emptyClass.statement ∧
      emptyClass.statement.body.construct ≠ .importDeclaration ∧
      (convertFile .empty "a.d.ts" (aliasBeside emptyClass)).file.body[0]? =
        (convertFile .empty "a.d.ts" (aliasBeside emptyInterface)).file.body[0]? := by
  have changes : (aliasBeside emptyClass).statements =
      (aliasBeside emptyInterface).statements.set 1 emptyClass.statement := rfl
  have other : emptyClass.statement.body.construct ≠ .importDeclaration := by decide
  refine ⟨changes, other, ?_⟩
  obtain ⟨-, -, -, -, -, -, elsewhere⟩ :=
    statements_stand_alone .empty "a.d.ts" (aliasBeside emptyInterface)
  apply elsewhere (aliasBeside emptyClass) 1 0 emptyClass.statement changes other
  · intro old found
    cases found
    decide
  · decide

end FlowDefs
