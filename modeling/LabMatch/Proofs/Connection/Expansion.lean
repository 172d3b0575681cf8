import LabMatch.Proofs.Connection.Bounded

/-!
# Lists built on the way to the alternatives

The alternatives of a shape are short when its compositions are bounded.  What has to be
held in memory are the lists that are sorted to obtain them, with all of their
repetitions: one after every branch of an `every`, and one for an `either`.  This module
computes alternatives again and records those lists, and reads expressions again,
recording what is built whenever a reader asks for alternatives.  Apart from the record
nothing changes, and no recorded list exceeds the limit, whatever the text.
-/

namespace LabMatch

open Expression (maximalAlternatives maximalNesting token? skipBlanks)

/-- A value, and the lists of tag sets that were built on the way to it. -/
structure Recorded (Value : Type) where
  value : Value
  lists : List (List TagSet)

namespace Recorded

variable {Value Result : Type}

instance : Monad Recorded where
  pure value := ⟨value, []⟩
  bind first next := ⟨(next first.value).value, first.lists ++ (next first.value).lists⟩

/-- A list that is built and kept as it is. -/
def built (list : List TagSet) : Recorded (List TagSet) := ⟨list, [list]⟩

/-- A list that is built and then sorted. -/
def sorted (list : List TagSet) : Recorded (List TagSet) := ⟨Ascending.ofList list, [list]⟩

/-- The value is the given one, and no recorded list exceeds the limit on alternatives. -/
structure Yields (recorded : Recorded Value) (value : Value) : Prop where
  value_eq : recorded.value = value
  bounded : ∀ list ∈ recorded.lists, list.length ≤ maximalAlternatives

theorem yields_pure (value : Value) : (pure value : Recorded Value).Yields value where
  value_eq := rfl
  bounded _ hlist := (List.not_mem_nil hlist).elim

theorem Yields.bind {first : Recorded Value} {next : Value → Recorded Result} {value : Value}
    {result : Result} (hfirst : first.Yields value) (hnext : (next value).Yields result) :
    (first >>= next).Yields result := by
  obtain ⟨rfl, hfirst⟩ := hfirst
  refine ⟨hnext.value_eq, ?_⟩
  intro list hlist
  exact (List.mem_append.mp hlist).elim (hfirst list) (hnext.bounded list)

theorem yields_built (tags : TagSet) : (built [tags]).Yields [tags] where
  value_eq := rfl
  bounded list hlist := by
    rw [List.mem_singleton.mp hlist, List.length_singleton]
    decide

theorem yields_sorted {list : List TagSet} (hlist : list.length ≤ maximalAlternatives) :
    (sorted list).Yields (Ascending.ofList list) where
  value_eq := rfl
  bounded other hother := by rwa [List.mem_singleton.mp hother]

end Recorded

open Recorded (built sorted)

/-! ## Expansion of shapes -/

/-- `crossUnion`, recorded. -/
def expandCross (mine theirs : List TagSet) : Recorded (List TagSet) :=
  sorted (mine.flatMap fun tags => theirs.map tags.union)

mutual

def Shape.expand : Shape → Recorded (List TagSet)
  | .link tags => built [tags]
  | .every first second others => do
    let gathered ← built [TagSet.bare]
    let gathered ← expandCross gathered (← first.expand)
    let gathered ← expandCross gathered (← second.expand)
    expandJointly gathered others
  | .either first second others => do
    sorted ((← first.expand) ++ ((← second.expand) ++ (← expandPooled others)))

def expandPooled : List Shape → Recorded (List TagSet)
  | [] => pure []
  | first :: others => return (← first.expand) ++ (← expandPooled others)

def expandJointly (gathered : List TagSet) : List Shape → Recorded (List TagSet)
  | [] => pure gathered
  | first :: others => do
    let gathered ← expandCross gathered (← first.expand)
    expandJointly gathered others

end

theorem Ascending.length_ofList_le {Key : Type} [LT Key] [DecidableLT Key] [KeyOrder Key]
    (keys : List Key) : (ofList keys).length ≤ keys.length := by
  have hnodup : (ofList keys).Nodup := (isAscending_ofList keys).imp KeyOrder.ne_of_lt
  exact (hnodup.subperm fun key hkey => mem_ofList.mp hkey).length_le

theorem length_crossUnion_le (mine theirs : List TagSet) :
    (crossUnion mine theirs).length ≤ mine.length * theirs.length := by
  refine (Ascending.length_ofList_le _).trans_eq ?_
  simp [List.length_flatMap]

/-- A cross union stays within the limit if the product of the lengths does. -/
theorem yields_expandCross {mine theirs : List TagSet}
    (hproduct : mine.length * theirs.length ≤ maximalAlternatives) :
    (expandCross mine theirs).Yields (crossUnion mine theirs) := by
  apply Recorded.yields_sorted
  simpa [List.length_flatMap] using hproduct

theorem length_pooledAlternatives (shapes : List Shape) :
    (pooledAlternatives shapes).length = (shapes.map Shape.count).sum := by
  induction shapes with
  | nil => rfl
  | cons first others ih => simp [pooledAlternatives, ih]

theorem prod_count_pos (shapes : List Shape) : 0 < (shapes.map Shape.count).prod := by
  induction shapes with
  | nil => exact Nat.one_pos
  | cons first others ih => exact Nat.mul_pos first.count_pos ih

/-- As long as the number of gathered sets and the numbers of alternatives to come
multiply to a bounded number, what is built at the next branch is bounded, and so is the
product that remains. -/
theorem yields_crossStep {gathered : List TagSet} {first : Shape} {others : List Shape}
    (hproduct : gathered.length * ((first :: others).map Shape.count).prod ≤
      maximalAlternatives) :
    (expandCross gathered first.alternatives).Yields (crossUnion gathered first.alternatives) ∧
      (crossUnion gathered first.alternatives).length * (others.map Shape.count).prod ≤
        maximalAlternatives := by
  rw [List.map_cons, List.prod_cons, ← Nat.mul_assoc] at hproduct
  constructor
  · apply yields_expandCross
    exact (Nat.le_mul_of_pos_right _ (prod_count_pos others)).trans hproduct
  · exact (Nat.mul_le_mul_right _ (length_crossUnion_le _ _)).trans hproduct

mutual

/-- The expansion of a bounded shape yields its alternatives. -/
theorem Shape.yields_expand : (shape : Shape) → shape.IsBounded →
    shape.expand.Yields shape.alternatives
  | .link tags, _ => Recorded.yields_built tags
  | .every first second others, hbounded => by
    rw [Shape.IsBounded, ← Nat.one_mul (List.prod _),
      ← List.length_singleton (a := TagSet.bare)] at hbounded
    obtain ⟨hfirst, hsecond, hothers, hproduct⟩ := hbounded
    obtain ⟨hfirstCross, hproduct⟩ := yields_crossStep hproduct
    obtain ⟨hsecondCross, hproduct⟩ := yields_crossStep hproduct
    rw [Shape.expand, Shape.alternatives]
    refine (Recorded.yields_built .bare).bind ?_
    refine (first.yields_expand hfirst).bind (hfirstCross.bind ?_)
    refine (second.yields_expand hsecond).bind (hsecondCross.bind ?_)
    exact yields_expandJointly others hothers hproduct
  | .either first second others, hbounded => by
    rw [Shape.IsBounded] at hbounded
    obtain ⟨hfirst, hsecond, hothers, hsum⟩ := hbounded
    rw [Shape.expand, Shape.alternatives]
    refine (first.yields_expand hfirst).bind ((second.yields_expand hsecond).bind ?_)
    refine (yields_expandPooled others hothers).bind (Recorded.yields_sorted ?_)
    rw [List.length_append, List.length_append, length_pooledAlternatives]
    simpa using hsum

theorem yields_expandPooled : (shapes : List Shape) → (∀ shape ∈ shapes, shape.IsBounded) →
    (expandPooled shapes).Yields (pooledAlternatives shapes)
  | [], _ => Recorded.yields_pure _
  | first :: others, hbounded => by
    rw [List.forall_mem_cons] at hbounded
    rw [expandPooled, pooledAlternatives]
    refine (first.yields_expand hbounded.1).bind ?_
    exact (yields_expandPooled others hbounded.2).bind (Recorded.yields_pure _)

/-- Combining bounded shapes one by one stays within the limit, if the product of their numbers of
alternatives does. -/
theorem yields_expandJointly : (shapes : List Shape) → {gathered : List TagSet} →
    (∀ shape ∈ shapes, shape.IsBounded) →
    gathered.length * (shapes.map Shape.count).prod ≤ maximalAlternatives →
    (expandJointly gathered shapes).Yields (crossAlternatives gathered shapes)
  | [], _, _, _ => Recorded.yields_pure _
  | first :: others, gathered, hbounded, hproduct => by
    rw [List.forall_mem_cons] at hbounded
    obtain ⟨hcross, hproduct⟩ := yields_crossStep hproduct
    rw [expandJointly, crossAlternatives]
    refine (first.yields_expand hbounded.1).bind (hcross.bind ?_)
    exact yields_expandJointly others hbounded.2 hproduct

end

/-! ## Expansion while reading -/

namespace Recorded

open Expression (Failure Reader ReadsBounded ReadsInside)

abbrev ShapeReader :=
  (input : List Char) → Recorded (Except Failure (Shape × Shorter input))

def factor (inside : Option ShapeReader) : ShapeReader := fun input =>
  match token? '(' input with
  | some opened =>
    match inside with
    | none => pure (.error ⟨.nestedTooDeeply, opened.val⟩)
    | some expression => do
      match ← expression opened.val with
      | .error failure => return .error failure
      | .ok (shape, afterShape) =>
        match token? ')' afterShape.val with
        | none => return .error ⟨.expectedClosing, (skipBlanks afterShape.val).val⟩
        | some closed =>
          return .ok (shape, opened.andThen (afterShape.andThen closed.weaken).weaken)
  -- Nothing is built for a name.
  | none => pure (Expression.factor none input)

def members (mark : Char) (weigh : Nat → Nat → Nat) (member : ShapeReader) (weight : Nat)
    (input : List Char) : Recorded (Except Failure (List Shape × NotLonger input)) :=
  match token? mark input with
  | none => pure (.ok ([], skipBlanks input))
  | some marked => do
    match ← member marked.val with
    | .error failure => return .error failure
    | .ok (next, afterNext) =>
      let weight := weigh weight (← next.expand).length
      if weight > maximalAlternatives then
        return .error ⟨.tooManyAlternatives maximalAlternatives, afterNext.val⟩
      else
        have := Nat.lt_trans afterNext.property marked.property
        match ← members mark weigh member weight afterNext.val with
        | .error failure => return .error failure
        | .ok (others, rest) =>
          return .ok (next :: others, (marked.andThen (afterNext.andThen rest).weaken).weaken)
termination_by input.length

def composition (mark : Char) (weigh : Nat → Nat → Nat) (combine : Shape → List Shape → Shape)
    (member : ShapeReader) : ShapeReader := fun input => do
  match ← member input with
  | .error failure => return .error failure
  | .ok (first, afterFirst) =>
    match ← members mark weigh member (← first.expand).length afterFirst.val with
    | .error failure => return .error failure
    | .ok (others, rest) => return .ok (combine first others, afterFirst.andThen rest)

def term (inside : Option ShapeReader) : ShapeReader :=
  composition '&' (· * ·) Shape.allOf (factor inside)

def expressionWithin (inside : Option ShapeReader) : ShapeReader :=
  composition '|' (· + ·) Shape.anyOf (term inside)

def expression : Nat → ShapeReader
  | 0 => expressionWithin none
  | depth + 1 => expressionWithin (some (expression depth))

/-- `Connection.parse`, recorded. -/
def parse (text : String) : Recorded (Except ConnectionError Connection) := do
  let read ← expression maximalNesting text.toList
  let malformed (failure : Failure) : ConnectionError :=
    .malformed text (Expression.byteLength text.toList - Expression.byteLength failure.rest)
      failure.fault
  match read with
  | .error failure => return .error (malformed failure)
  | .ok (shape, rest) =>
    match (skipBlanks rest.val).val with
    | [] => return .ok ⟨shape, none⟩
    | left => return .error (malformed ⟨.trailingInput, left⟩)

/-- The recorded reader reads as the plain one does, and only builds bounded lists. -/
def Follows (recorded : ShapeReader) (plain : Reader) : Prop :=
  ∀ input, (recorded input).Yields (plain input)

section Composition

variable {recorded : ShapeReader} {plain : Reader} {mark : Char} {weigh : Nat → Nat → Nat}

theorem yields_members (hfollows : Follows recorded plain) (hplain : ReadsBounded plain)
    (weight : Nat) (input : List Char) :
    (members mark weigh recorded weight input).Yields
      (Expression.members mark weigh plain weight input) := by
  fun_induction Expression.members mark weigh plain weight input with
  | case1 weight input htoken =>
    rw [members, htoken]
    exact yields_pure _
  | case2 weight input marked htoken failure hfails =>
    rw [members, htoken]
    exact (hfails ▸ hfollows marked.val).bind (yields_pure _)
  | case3 weight input marked htoken next afterNext hnext _ hbound =>
    have hexpand := next.yields_expand (hplain _ _ _ hnext)
    rw [members, htoken]
    refine (hnext ▸ hfollows marked.val).bind (hexpand.bind ?_)
    rw [if_pos hbound]
    exact yields_pure _
  | case4 weight input marked htoken next afterNext hnext _ hbound _ failure hothers =>
    rename_i ih
    have hexpand := next.yields_expand (hplain _ _ _ hnext)
    rw [members, htoken]
    refine (hnext ▸ hfollows marked.val).bind (hexpand.bind ?_)
    rw [if_neg hbound]
    exact (hothers ▸ ih).bind (yields_pure _)
  | case5 weight input marked htoken next afterNext hnext _ hbound _ others rest hothers =>
    rename_i ih
    have hexpand := next.yields_expand (hplain _ _ _ hnext)
    rw [members, htoken]
    refine (hnext ▸ hfollows marked.val).bind (hexpand.bind ?_)
    rw [if_neg hbound]
    exact (hothers ▸ ih).bind (yields_pure _)

/-- A recorded reader of members makes a recorded reader of compositions. -/
theorem Follows.composition {combine : Shape → List Shape → Shape}
    (hfollows : Follows recorded plain) (hplain : ReadsBounded plain) :
    Follows (composition mark weigh combine recorded)
      (Expression.composition mark weigh combine plain) := by
  intro input
  rw [Recorded.composition, Expression.composition]
  split
  · rename_i failure hfails
    exact (hfails ▸ hfollows input).bind (yields_pure _)
  · rename_i first afterFirst hfirst
    have hexpand := first.yields_expand (hplain _ _ _ hfirst)
    refine (hfirst ▸ hfollows input).bind (hexpand.bind ?_)
    have hmembers : (members mark weigh recorded first.alternatives.length afterFirst.val).Yields
        _ := yields_members hfollows hplain _ _
    split
    · rename_i failure hfails
      exact (hfails ▸ hmembers).bind (yields_pure _)
    · rename_i others rest hrest
      exact (hrest ▸ hmembers).bind (yields_pure _)

end Composition

/-- The recorded reader of what stands in parentheses follows the plain one, if there is
one. -/
inductive FollowsInside : Option ShapeReader → Option Reader → Prop
  | none : FollowsInside none none
  | some {recorded : ShapeReader} {plain : Reader} (hfollows : Follows recorded plain) :
      FollowsInside (some recorded) (some plain)

section Nesting

variable {recorded : Option ShapeReader} {plain : Option Reader} {depth : Nat}

theorem FollowsInside.factor (hfollows : FollowsInside recorded plain) :
    Follows (factor recorded) (Expression.factor plain) := by
  intro input
  rw [Recorded.factor]
  cases htoken : token? '(' input with
  | none =>
    have hname : Expression.factor .none input = Expression.factor plain input := by
      rw [Expression.factor, Expression.factor, htoken]
    rw [← hname]
    exact yields_pure _
  | some opened =>
    dsimp only
    rw [Expression.factor, htoken]
    cases hfollows with
    | none => exact yields_pure _
    | some hfollows =>
      dsimp only
      split
      · rename_i failure hfails
        exact (hfails ▸ hfollows opened.val).bind (yields_pure _)
      · rename_i shape afterShape hshape
        refine (hshape ▸ hfollows opened.val).bind ?_
        dsimp only
        cases token? ')' afterShape.val with
        | none => exact yields_pure _
        | some closed => exact yields_pure _

theorem FollowsInside.expressionWithin (hfollows : FollowsInside recorded plain)
    (hreads : ReadsInside plain depth) :
    Follows (expressionWithin recorded) (Expression.expressionWithin plain) :=
  (hfollows.factor.composition hreads.readsBounded_factor).composition hreads.readsBounded_term

/-- Recording does not change how expressions are read. -/
theorem follows_expression (depth : Nat) :
    Follows (expression depth) (Expression.expression depth) := by
  induction depth with
  | zero => exact FollowsInside.none.expressionWithin .none
  | succ depth ih =>
    exact (FollowsInside.some ih).expressionWithin (.some (Expression.reads_expression depth))

end Nesting

/-- Recording does not change what is parsed, and nothing recorded exceeds the limit. -/
theorem yields_parse (text : String) : (parse text).Yields (Connection.parse text) := by
  rw [parse, Connection.parse, Expression.shape]
  have hread := follows_expression maximalNesting text.toList
  cases hexpression : Expression.expression maximalNesting text.toList with
  | error failure => exact (hexpression ▸ hread).bind (yields_pure _)
  | ok read =>
    refine (hexpression ▸ hread).bind ?_
    dsimp only
    cases (skipBlanks read.2.val).val with
    | nil => exact yields_pure _
    | cons first others => exact yields_pure _

end Recorded

/-- The shape occurs in a tree, as the whole or further down. -/
inductive Shape.IsPartOf (part : Shape) : Shape → Prop
  | whole : IsPartOf part part
  | every {first second branch : Shape} {others : List Shape}
      (hbranch : branch ∈ first :: second :: others) (hpart : IsPartOf part branch) :
      IsPartOf part (.every first second others)
  | either {first second branch : Shape} {others : List Shape}
      (hbranch : branch ∈ first :: second :: others) (hpart : IsPartOf part branch) :
      IsPartOf part (.either first second others)

theorem Shape.IsPartOf.isBounded {part whole : Shape} (hpart : part.IsPartOf whole)
    (hbounded : whole.IsBounded) : part.IsBounded := by
  have hbranches : ∀ {first second : Shape} {others : List Shape}, first.IsBounded →
      second.IsBounded → (∀ other ∈ others, other.IsBounded) →
      ∀ branch ∈ first :: second :: others, branch.IsBounded := by
    intro first second others hfirst hsecond hothers
    simpa using ⟨hfirst, hsecond, hothers⟩
  induction hpart with
  | whole => exact hbounded
  | every hbranch _ ih =>
    rw [Shape.IsBounded] at hbounded
    exact ih (hbranches hbounded.1 hbounded.2.1 hbounded.2.2.1 _ hbranch)
  | either hbranch _ ih =>
    rw [Shape.IsBounded] at hbounded
    exact ih (hbranches hbounded.1 hbounded.2.1 hbounded.2.2.1 _ hbranch)

/-- No list that is built while a text is read, whether or not it is accepted, or while
the connection that was read or any part of it is expanded, exceeds the limit on
alternatives. -/
theorem parse_expandsWithinLimit (text : String) :
    (Recorded.parse text).value = Connection.parse text ∧
    (∀ list ∈ (Recorded.parse text).lists, list.length ≤ maximalAlternatives) ∧
    ∀ connection, Connection.parse text = .ok connection →
      ∀ part, Shape.IsPartOf part connection.shape →
        part.expand.value = part.alternatives ∧
          ∀ list ∈ part.expand.lists, list.length ≤ maximalAlternatives := by
  have hparse := Recorded.yields_parse text
  refine ⟨hparse.value_eq, hparse.bounded, ?_⟩
  intro connection haccepted part hpart
  have hexpand := part.yields_expand (hpart.isBounded (isBounded_of_parse_eq_ok haccepted))
  exact ⟨hexpand.value_eq, hexpand.bounded⟩

/-- Four products are built for three alternatives. -/
theorem parse_expandsWithinLimit_usbOrCanTwice :
    ∃ connection, Connection.parse "(usb | can) & (usb | can)" = .ok connection ∧
      connection.alternatives.length = 3 ∧
      ∃ list ∈ connection.shape.expand.lists, list.length = 4 ∧
        list.length ≤ maximalAlternatives := by
  have hread : (Connection.parse "(usb | can) & (usb | can)").map (fun connection =>
      (connection.alternatives.length, connection.shape.expand.lists.map List.length)) =
        .ok (3, [1, 1, 1, 2, 2, 1, 1, 2, 4]) := by decide +kernel
  obtain ⟨connection, hparse, hseen⟩ := exists_parse_eq_ok_of_map hread
  obtain ⟨hcount, hlengths⟩ := Prod.mk.inj hseen
  have hfour : 4 ∈ connection.shape.expand.lists.map List.length := by simp [hlengths]
  obtain ⟨list, hlist, hlength⟩ := List.mem_map.mp hfour
  have hexpand := (parse_expandsWithinLimit _).2.2 connection hparse connection.shape .whole
  exact ⟨connection, hparse, hcount, list, hlist, hlength, hexpand.2 list hlist⟩

end LabMatch
