import LabMatch.Proofs.DeclarationFile.Described

/-!
# Steps of loading

Loading is a sequence of accepted declarations.  Each step is described by what it adds to
the outline of the catalogue; steps in a row add their parts in turn, and every part keeps
fitting its entry until the end.
-/

namespace LabMatch.Catalog

open DeclarationFile

variable {catalog next : Catalog}

/-! ## One declaration -/

theorem of_declaredAt_eq_ok {Result : Type} {site : String}
    {outcome : Except DeclarationError Result} {result : Result}
    (haccepted : declaredAt site outcome = .ok result) : outcome = .ok result := by
  cases outcome with
  | error reason => cases haccepted
  | ok other => exact congrArg Except.ok (Except.ok.inj haccepted)

theorem of_connectionAt_eq_ok {site text : String} {connection : Connection}
    (hread : connectionAt site text = .ok connection) :
    Connection.parse text = .ok connection := by
  rw [connectionAt] at hread
  cases hparsed : Connection.parse text with
  | error reason =>
    rw [hparsed] at hread
    cases hread
  | ok other =>
    rw [hparsed] at hread
    exact congrArg Except.ok (Except.ok.inj hread)

/-- An operation that introduces an entity is a declaration; it answers the position of the new
entity. -/
theorem outline_of_introduced {family : Family} (declaration : Declaration)
    {outcome : Except DeclarationError (Id family × Catalog)} {site : String} {id : Id family}
    (hdeclaration : catalog.declare declaration = declare.introduced outcome)
    (hintroduces : declaration.introduces = some family)
    (haccepted : declaredAt site outcome = .ok (id, next)) :
    catalog.Continues next ∧ id = ⟨catalog.outline.count family⟩ ∧
      next.outline = declaration.effect.apply catalog.outline := by
  have hmade : catalog.declare declaration = .ok (some id.index, next) := by
    rw [hdeclaration, of_declaredAt_eq_ok haccepted]
    rfl
  have hanswer := (introduces_of_declare hmade).answer
  rw [hintroduces, Option.map_some, ← count_outline] at hanswer
  exact ⟨continues_of_declare hmade, congrArg Id.mk (Option.some.inj hanswer),
    outline_declare hmade⟩

/-- An operation that only changes entities is a declaration. -/
theorem outline_of_changed (declaration : Declaration) {outcome : Except DeclarationError Catalog}
    {site : String} (hdeclaration : catalog.declare declaration = declare.changed outcome)
    (haccepted : declaredAt site outcome = .ok next) :
    catalog.Continues next ∧ next.outline = declaration.effect.apply catalog.outline := by
  have hmade : catalog.declare declaration = .ok (none, next) := by
    rw [hdeclaration, of_declaredAt_eq_ok haccepted]
    rfl
  exact ⟨continues_of_declare hmade, outline_declare hmade⟩

/-! ## Declarations in a row -/

section Fold

variable {Item Made : Type} (add : Catalog → List Made → Catalog)
  (Fits : Catalog → Item → Made → Prop)

/-- Every step adds a part that fits its item; all steps together add all parts. -/
theorem foldlM_outline {step : Catalog → Item → Except LoadError Catalog} {items : List Item}
    (hnothing : ∀ outline, add outline [] = outline)
    (hadd : ∀ outline made others, add (add outline [made]) others = add outline (made :: others))
    (hlater : ∀ {middle next : Catalog} {item : Item} {made : Made},
      Fits middle item made → middle.Continues next → Fits next item made)
    (hstep : ∀ {middle next : Catalog} {item : Item}, catalog.Continues middle →
      step middle item = .ok next → middle.Continues next ∧
        ∃ made, next.outline = add middle.outline [made] ∧ Fits next item made)
    (hloaded : items.foldlM step catalog = .ok next) :
    catalog.Continues next ∧
      ∃ made, next.outline = add catalog.outline made ∧ List.Forall₂ (Fits next) items made := by
  induction items generalizing catalog with
  | nil =>
    cases hloaded
    exact ⟨.refl, [], (hnothing _).symm, .nil⟩
  | cons item others ih =>
    rw [List.foldlM_cons] at hloaded
    obtain ⟨middle, hitem, hothers⟩ := exists_of_bind_eq_ok hloaded
    obtain ⟨hfirst, made, houtline, hfits⟩ := hstep .refl hitem
    obtain ⟨hrest, rest, hrestOutline, hrestFits⟩ :=
      ih (fun hcontinues => hstep (hfirst.trans hcontinues)) hothers
    refine ⟨hfirst.trans hrest, made :: rest, ?_, .cons (hlater hfits hrest) hrestFits⟩
    rw [hrestOutline, houtline, hadd]

/-- Loading entries one after the other only adds declarations. -/
theorem foldlM_continues {step : Catalog → Item → Except LoadError Catalog} {items : List Item}
    (hstep : ∀ {middle next : Catalog} {item : Item}, catalog.Continues middle →
      step middle item = .ok next → middle.Continues next)
    (hloaded : items.foldlM step catalog = .ok next) : catalog.Continues next := by
  induction items generalizing catalog with
  | nil =>
    cases hloaded
    exact .refl
  | cons item others ih =>
    rw [List.foldlM_cons] at hloaded
    obtain ⟨middle, hitem, hothers⟩ := exists_of_bind_eq_ok hloaded
    have hfirst := hstep .refl hitem
    exact hfirst.trans (ih (fun hcontinues => hstep (hfirst.trans hcontinues)) hothers)

/-- A parent is declared if there is one. -/
theorem withParent_outline {Parent : Type} (add : Catalog → List Parent → Catalog)
    (Names : Catalog → String → Parent → Prop) {parent : Option String}
    {extend : String → Except LoadError Catalog}
    (hnothing : ∀ outline, add outline [] = outline)
    (hextend : ∀ {path : String}, extend path = .ok next → catalog.Continues next ∧
      ∃ above, next.outline = add catalog.outline [above] ∧ Names next path above)
    (hloaded : catalog.withParent parent extend = .ok next) :
    catalog.Continues next ∧ ∃ parents, next.outline = add catalog.outline parents ∧
      List.Forall₂ (Names next) parent.toList parents := by
  cases parent with
  | none =>
    cases hloaded
    exact ⟨.refl, [], (hnothing _).symm, .nil⟩
  | some path =>
    obtain ⟨hcontinues, above, houtline, hnames⟩ := hextend hloaded
    exact ⟨hcontinues, [above], houtline, .cons hnames .nil⟩

end Fold

/-! ## Changed entities -/

section Modify

variable {Entity : Type} {change : Entity → Entity} {entities : List Entity} {position : Nat}

theorem modify_of_same (hsame : ∀ entity, change entity = entity) :
    entities.modify position change = entities := by
  rw [funext hsame]
  exact List.modify_id ..

theorem modify_middle (front back : List Entity) (entity : Entity) :
    (front ++ entity :: back).modify front.length change = front ++ change entity :: back := by
  rw [List.modify_eq_take_cons_drop (by simp)]
  simp

theorem modify_last (front : List Entity) (entity : Entity) :
    (front ++ [entity]).modify front.length change = front ++ [change entity] :=
  modify_middle front [] entity

end Modify

end LabMatch.Catalog
