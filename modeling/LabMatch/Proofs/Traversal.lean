import Mathlib.Data.List.Forall2

/-!
# Traversals that may fail

A list is traversed with a step that may fail.  The traversal succeeds exactly if
every step does, and a failed traversal gives the reason of a step that failed.
-/

namespace LabMatch

section Checks

variable {Item Failure : Type} {step : Item → Except Failure Unit} {items : List Item}

/-- Two checks are passed together if both are. -/
theorem bind_eq_ok_iff {first : Except Failure Unit} {next : Unit → Except Failure Unit} :
    first >>= next = .ok () ↔ first = .ok () ∧ next () = .ok () := by
  cases first with
  | error reason => simp [bind, Except.bind]
  | ok nothing => simp [bind, Except.bind]

/-- A check of all items passes exactly if each of them does. -/
theorem forM_eq_ok_iff : items.forM step = .ok () ↔ ∀ item ∈ items, step item = .ok () := by
  induction items with
  | nil => simp [pure, Except.pure]
  | cons item others ih =>
    rw [List.forM, bind_eq_ok_iff, List.forall_mem_cons, ih]

end Checks

section FailsWith

variable {Failure Item First Second : Type} {Allowed : Failure → Prop}

/-- If the computation fails, it does so for one of the allowed reasons. -/
def FailsWith (Allowed : Failure → Prop) (outcome : Except Failure First) : Prop :=
  ∀ reason, outcome = .error reason → Allowed reason

theorem failsWith_ok (answer : First) :
    FailsWith Allowed (.ok answer : Except Failure First) := by
  intro reason hfails
  cases hfails

theorem failsWith_error {reason : Failure} (hallowed : Allowed reason) :
    FailsWith Allowed (.error reason : Except Failure First) := by
  intro other hfails
  cases hfails
  exact hallowed

/-- The second part only has to be looked at for answers that the first one can give. -/
theorem FailsWith.bind_of_eq_ok {first : Except Failure First}
    {next : First → Except Failure Second}
    (hfirst : FailsWith Allowed first)
    (hnext : ∀ answer, first = .ok answer → FailsWith Allowed (next answer)) :
    FailsWith Allowed (first >>= next) := by
  cases first with
  | error reason => exact failsWith_error (hfirst reason rfl)
  | ok answer => exact hnext answer rfl

theorem FailsWith.bind {first : Except Failure First} {next : First → Except Failure Second}
    (hfirst : FailsWith Allowed first) (hnext : ∀ answer, FailsWith Allowed (next answer)) :
    FailsWith Allowed (first >>= next) :=
  hfirst.bind_of_eq_ok fun answer _ => hnext answer

theorem FailsWith.map {first : Except Failure First} (hfirst : FailsWith Allowed first)
    (convert : First → Second) : FailsWith Allowed (first.map convert) := by
  cases first with
  | error reason => exact failsWith_error (hfirst reason rfl)
  | ok answer => exact failsWith_ok (convert answer)

theorem failsWith_forM {step : Item → Except Failure Unit}
    (hstep : ∀ item, FailsWith Allowed (step item)) (items : List Item) :
    FailsWith Allowed (items.forM step) := by
  induction items with
  | nil => exact failsWith_ok ()
  | cons item others ih =>
    apply (hstep item).bind
    exact fun _ => ih

theorem failsWith_mapM {step : Item → Except Failure First} {items : List Item}
    (hstep : ∀ item ∈ items, FailsWith Allowed (step item)) :
    FailsWith Allowed (items.mapM step) := by
  induction items with
  | nil => exact failsWith_ok []
  | cons item others ih =>
    obtain ⟨hitem, hothers⟩ := List.forall_mem_cons.mp hstep
    rw [List.mapM_cons]
    apply hitem.bind
    exact fun _ => (ih hothers).bind fun _ => failsWith_ok _

theorem failsWith_foldlM {step : First → Item → Except Failure First}
    (hstep : ∀ state item, FailsWith Allowed (step state item)) (items : List Item)
    (state : First) : FailsWith Allowed (items.foldlM step state) := by
  induction items generalizing state with
  | nil => exact failsWith_ok state
  | cons item others ih =>
    rw [List.foldlM_cons]
    exact (hstep state item).bind ih

end FailsWith

/-- A traversal in which every step succeeds. -/
theorem mapM_eq_ok {Item Value Result Failure : Type} {step : Item → Except Failure Result}
    {wrap : Value → Result} {Good : Item → Value → Prop} {items : List Item}
    (hstep : ∀ item ∈ items, ∃ value, step item = .ok (wrap value) ∧ Good item value) :
    ∃ values, items.mapM step = .ok (values.map wrap) ∧ List.Forall₂ Good items values := by
  induction items with
  | nil => exact ⟨[], rfl, List.Forall₂.nil⟩
  | cons item others ih =>
    obtain ⟨hitem, hothers⟩ := List.forall_mem_cons.mp hstep
    obtain ⟨value, hvalue, hgood⟩ := hitem
    obtain ⟨values, hvalues, hall⟩ := ih hothers
    have hboth : (item :: others).mapM step = .ok ((value :: values).map wrap) := by
      rw [List.mapM_cons, hvalue, hvalues]
      rfl
    exact ⟨value :: values, hboth, List.Forall₂.cons hgood hall⟩

/-- A traversal that succeeds gives the results of its steps, in their order. -/
theorem forall₂_of_mapM_eq_ok {Item Result Failure : Type} {step : Item → Except Failure Result}
    {items : List Item} {results : List Result} (hresults : items.mapM step = .ok results) :
    List.Forall₂ (fun item result => step item = .ok result) items results := by
  induction items generalizing results with
  | nil =>
    cases hresults
    exact .nil
  | cons item others ih =>
    rw [List.mapM_cons] at hresults
    cases hfirst : step item with
    | error reason =>
      rw [hfirst] at hresults
      cases hresults
    | ok first =>
      cases hothers : others.mapM step with
      | error reason =>
        rw [hfirst, hothers] at hresults
        cases hresults
      | ok rest =>
        rw [hfirst, hothers] at hresults
        cases hresults
        exact .cons hfirst (ih hothers)

/-- A traversal with a step that fails gives the reason of such a step. -/
theorem mapM_eq_error {Item Result Failure : Type} {step : Item → Except Failure Result}
    {items : List Item} (hfails : ∃ item ∈ items, ∃ reason, step item = .error reason) :
    ∃ item ∈ items, ∃ reason, step item = .error reason ∧ items.mapM step = .error reason := by
  induction items with
  | nil =>
    obtain ⟨item, hitem, -⟩ := hfails
    cases hitem
  | cons first others ih =>
    cases hfirst : step first with
    | error reason =>
      exact ⟨first, List.mem_cons_self, reason, hfirst, by rw [List.mapM_cons, hfirst]; rfl⟩
    | ok result =>
      obtain ⟨item, hitem, reason, hreason⟩ := hfails
      have hothers : item ∈ others := by
        apply (List.mem_cons.mp hitem).resolve_left
        intro hsame
        rw [hsame, hfirst] at hreason
        cases hreason
      obtain ⟨failing, hfailing, failure, hfailure, hresult⟩ := ih ⟨item, hothers, reason, hreason⟩
      have hall : (first :: others).mapM step = .error failure := by
        rw [List.mapM_cons, hfirst, hresult]
        rfl
      exact ⟨failing, List.mem_cons_of_mem _ hfailing, failure, hfailure, hall⟩

/-- Steps that each take the parts of their item in turn, unless they fail for one of the
allowed reasons, take the parts of all items in turn, unless they fail for such a reason. -/
theorem foldlM_flatMap_or {Item Part State Failure : Type} {Allowed : Failure → Prop}
    {step : State → Item → Except Failure State} {partStep : State → Part → Except Failure State}
    (parts : Item → List Part)
    (hstep : ∀ state item, step state item = (parts item).foldlM partStep state ∨
      ∃ reason, step state item = .error reason ∧ Allowed reason)
    (items : List Item) (state : State) :
    items.foldlM step state = (items.flatMap parts).foldlM partStep state ∨
      ∃ reason, items.foldlM step state = .error reason ∧ Allowed reason := by
  induction items generalizing state with
  | nil => exact Or.inl rfl
  | cons item others ih =>
    rw [List.foldlM_cons, List.flatMap_cons, List.foldlM_append]
    rcases hstep state item with hparts | ⟨reason, hfails, hallowed⟩
    · rw [← hparts]
      cases step state item with
      | error reason => exact Or.inl rfl
      | ok next => exact ih next
    · rw [hfails]
      exact Or.inr ⟨reason, rfl, hallowed⟩

/-- A traversal that fails does so at some step, after the steps before it succeeded. -/
theorem foldlM_eq_error {Item State Failure : Type} {step : State → Item → Except Failure State}
    {items : List Item} {start : State} {reason : Failure}
    (hfails : items.foldlM step start = .error reason) :
    ∃ before item after middle, items = before ++ item :: after ∧
      before.foldlM step start = .ok middle ∧ step middle item = .error reason := by
  induction items generalizing start with
  | nil => cases hfails
  | cons first others ih =>
    rw [List.foldlM_cons] at hfails
    cases hfirst : step start first with
    | error failure =>
      rw [hfirst] at hfails
      cases hfails
      exact ⟨[], first, others, start, rfl, rfl, hfirst⟩
    | ok next =>
      rw [hfirst] at hfails
      obtain ⟨before, item, after, middle, rfl, hbefore, hitem⟩ := ih hfails
      exact ⟨first :: before, item, after, middle, rfl,
        by rw [List.foldlM_cons, hfirst]; exact hbefore, hitem⟩

section Results

variable {Failure Item First Second : Type}

theorem exists_bind_eq_ok_iff {first : Except Failure First}
    {next : First → Except Failure Second} :
    (∃ result, first >>= next = .ok result) ↔
      ∃ answer, first = .ok answer ∧ ∃ result, next answer = .ok result := by
  cases first with
  | error reason => simp [bind, Except.bind]
  | ok answer => simp [bind, Except.bind]

variable {step : Item → Except Failure First} {items : List Item}

/-- The results of a traversal are the results of its steps. -/
theorem mem_iff_of_mapM_eq_ok {results : List First} (hresults : items.mapM step = .ok results)
    {result : First} : result ∈ results ↔ ∃ item ∈ items, step item = .ok result := by
  induction items generalizing results with
  | nil =>
    cases hresults
    simp
  | cons item others ih =>
    rw [List.mapM_cons] at hresults
    cases hfirst : step item with
    | error reason =>
      rw [hfirst] at hresults
      cases hresults
    | ok first =>
      cases hothers : others.mapM step with
      | error reason =>
        rw [hfirst, hothers] at hresults
        cases hresults
      | ok rest =>
        rw [hfirst, hothers] at hresults
        cases hresults
        rw [List.mem_cons, ih hothers, List.exists_mem_cons_iff, hfirst, Except.ok.injEq, eq_comm]

theorem exists_mapM_eq_ok_iff :
    (∃ results, items.mapM step = .ok results) ↔
      ∀ item ∈ items, ∃ result, step item = .ok result := by
  induction items with
  | nil => simp [pure, Except.pure]
  | cons item others ih =>
    simp only [List.mapM_cons, exists_bind_eq_ok_iff, List.forall_mem_cons, ← ih, pure,
      Except.pure, Except.ok.injEq, exists_eq', and_true, exists_and_right]

theorem exists_foldlM_eq_ok {step : First → Item → Except Failure First}
    (hstep : ∀ gathered, ∀ item ∈ items, ∃ result, step gathered item = .ok result)
    (start : First) : ∃ result, items.foldlM step start = .ok result := by
  induction items generalizing start with
  | nil => exact ⟨start, rfl⟩
  | cons item others ih =>
    obtain ⟨next, hnext⟩ := hstep start item List.mem_cons_self
    rw [List.foldlM_cons, hnext]
    apply ih
    exact fun gathered other hother => hstep gathered other (List.mem_cons_of_mem _ hother)

end Results

section Forall₂

variable {First Second : Type} {Good : First → Second → Prop} {firsts : List First}
  {seconds : List Second}

theorem exists_of_forall₂_left (hgood : List.Forall₂ Good firsts seconds) {first : First}
    (hfirst : first ∈ firsts) : ∃ second ∈ seconds, Good first second := by
  obtain ⟨position, hposition, rfl⟩ := List.getElem_of_mem hfirst
  have hlength : position < seconds.length := hgood.length_eq ▸ hposition
  exact ⟨seconds[position], List.getElem_mem hlength, hgood.get hposition hlength⟩

theorem exists_of_forall₂_right (hgood : List.Forall₂ Good firsts seconds) {second : Second}
    (hsecond : second ∈ seconds) : ∃ first ∈ firsts, Good first second :=
  exists_of_forall₂_left hgood.flip hsecond

theorem forall₂_of_both {Good' : First → Second → Prop} (hgood : List.Forall₂ Good firsts seconds)
    (hgood' : List.Forall₂ Good' firsts seconds) :
    List.Forall₂ (fun first second => Good first second ∧ Good' first second) firsts seconds := by
  induction hgood with
  | nil => exact .nil
  | cons hfirst _ ih =>
    obtain _ | ⟨hother, hothers⟩ := hgood'
    exact .cons ⟨hfirst, hother⟩ (ih hothers)

/-- Partners of the same items look the same if any two partners of an item do. -/
theorem map_eq_of_forall₂ {Third Seen : Type} {Good' : First → Third → Prop} {see : Second → Seen}
    {see' : Third → Seen} {thirds : List Third} (hgood : List.Forall₂ Good firsts seconds)
    (hgood' : List.Forall₂ Good' firsts thirds)
    (hsame : ∀ {first second third}, Good first second → Good' first third →
      see second = see' third) :
    seconds.map see = thirds.map see' := by
  induction hgood generalizing thirds with
  | nil =>
    cases hgood'
    rfl
  | cons hfirst _ ih =>
    obtain _ | ⟨hother, hothers⟩ := hgood'
    rw [List.map_cons, List.map_cons, hsame hfirst hother, ih hothers]

/-- What is determined item by item is determined as a list. -/
theorem eq_of_forall₂ {Good' : First → Second → Prop} {seconds' : List Second}
    (hgood : List.Forall₂ Good firsts seconds) (hgood' : List.Forall₂ Good' firsts seconds')
    (hsame : ∀ {first second second'}, Good first second → Good' first second' →
      second = second') : seconds = seconds' := by
  rw [← List.map_id seconds, ← List.map_id seconds']
  exact map_eq_of_forall₂ hgood hgood' hsame

theorem optionRel_imp {Good' : First → Second → Prop}
    (himp : ∀ first second, Good first second → Good' first second) {first : Option First}
    {second : Option Second} (hgood : Option.Rel Good first second) :
    Option.Rel Good' first second := by
  cases hgood with
  | none => exact .none
  | some hgood => exact .some (himp _ _ hgood)

theorem eq_of_optionRel {Good' : First → Second → Prop} {first : Option First}
    {second second' : Option Second} (hgood : Option.Rel Good first second)
    (hgood' : Option.Rel Good' first second')
    (hsame : ∀ {first second second'}, Good first second → Good' first second' →
      second = second') : second = second' := by
  cases hgood with
  | none =>
    cases hgood'
    rfl
  | some hone =>
    cases hgood' with
    | some hother => rw [hsame hone hother]

theorem pairwise_of_forall₂ {Apart : First → First → Prop} {Apart' : Second → Second → Prop}
    (hgood : List.Forall₂ Good firsts seconds) (hfirsts : firsts.Pairwise Apart)
    (hapart : ∀ {first other second other'}, Good first second → Good other other' →
      Apart first other → Apart' second other') :
    seconds.Pairwise Apart' := by
  rw [List.pairwise_iff_getElem] at hfirsts ⊢
  intro position later hposition hlater hlt
  have hposition' : position < firsts.length := hgood.length_eq ▸ hposition
  have hlater' : later < firsts.length := hgood.length_eq ▸ hlater
  exact hapart (hgood.get hposition' hposition) (hgood.get hlater' hlater)
    (hfirsts position later hposition' hlater' hlt)

end Forall₂

/-- A conversion of the answer can be moved behind what comes next. -/
theorem bind_eq_map_bind {First Second Result Failure : Type} (first : Except Failure First)
    {next : First → Except Failure Result} {next' : First → Except Failure Second}
    {convert : Second → Result} (hnext : ∀ answer, next answer = (next' answer).map convert) :
    first >>= next = (first >>= next').map convert := by
  cases first with
  | error reason => rfl
  | ok answer => exact hnext answer

section Seen

variable {First Second Seen Failure : Type} {see : Second → Seen}

theorem map_bind_congr (first : Except Failure First) {next next' : First → Except Failure Second}
    (hnext : ∀ answer, (next answer).map see = (next' answer).map see) :
    (first >>= next).map see = (first >>= next').map see := by
  cases first with
  | error reason => rfl
  | ok answer => exact hnext answer

/-- What is seen of the outcome of a fold only depends on what is seen of the start. -/
theorem map_foldlM_congr {Item : Type} {step : Second → Item → Except Failure Second}
    (hstep : ∀ state state' item, see state = see state' →
      (step state item).map see = (step state' item).map see)
    (items : List Item) {start start' : Second} (hstart : see start = see start') :
    (items.foldlM step start).map see = (items.foldlM step start').map see := by
  induction items generalizing start start' with
  | nil => exact congrArg Except.ok hstart
  | cons item others ih =>
    have hitem := hstep start start' item hstart
    rw [List.foldlM_cons, List.foldlM_cons]
    cases hfirst : step start item with
    | error reason =>
      cases hsecond : step start' item with
      | error reason' =>
        rw [hfirst, hsecond] at hitem
        cases hitem
        rfl
      | ok state =>
        rw [hfirst, hsecond] at hitem
        cases hitem
    | ok state =>
      cases hsecond : step start' item with
      | error reason' =>
        rw [hfirst, hsecond] at hitem
        cases hitem
      | ok state' =>
        rw [hfirst, hsecond] at hitem
        exact ih (Except.ok.inj hitem)

end Seen

section Congruence

variable {Item First Second Failure : Type} {items : List Item}

theorem any_congr {holds holds' : Item → Bool} (hsame : ∀ item ∈ items, holds item = holds' item) :
    items.any holds = items.any holds' := by
  induction items with
  | nil => rfl
  | cons item others ih =>
    obtain ⟨hitem, hothers⟩ := List.forall_mem_cons.mp hsame
    rw [List.any_cons, List.any_cons, hitem, ih hothers]

/-- A computation only continues from what its first part gives. -/
theorem bind_congr_of_eq_ok {first : Except Failure First}
    {next next' : First → Except Failure Second}
    (hnext : ∀ answer, first = .ok answer → next answer = next' answer) :
    first >>= next = first >>= next' := by
  cases first with
  | error reason => rfl
  | ok answer => exact hnext answer rfl

theorem mapM_congr {step step' : Item → Except Failure First}
    (hstep : ∀ item ∈ items, step item = step' item) : items.mapM step = items.mapM step' := by
  induction items with
  | nil => rfl
  | cons item others ih =>
    obtain ⟨hitem, hothers⟩ := List.forall_mem_cons.mp hstep
    rw [List.mapM_cons, List.mapM_cons, hitem, ih hothers]

theorem forM_congr {step step' : Item → Except Failure Unit}
    (hstep : ∀ item ∈ items, step item = step' item) : items.forM step = items.forM step' := by
  induction items with
  | nil => rfl
  | cons item others ih =>
    obtain ⟨hitem, hothers⟩ := List.forall_mem_cons.mp hstep
    rw [List.forM, List.forM, hitem, ih hothers]

/-- Steps that agree on the items lead to the same outcome. -/
theorem foldlM_congr {step step' : First → Item → Except Failure First}
    (hstep : ∀ state, ∀ item ∈ items, step state item = step' state item) (start : First) :
    items.foldlM step start = items.foldlM step' start := by
  induction items generalizing start with
  | nil => rfl
  | cons item others ih =>
    rw [List.foldlM_cons, List.foldlM_cons, hstep start item List.mem_cons_self]
    exact bind_congr_of_eq_ok fun next _ =>
      ih (fun state other hother => hstep state other (List.mem_cons_of_mem _ hother)) next

end Congruence

end LabMatch
