import LabMatch.Proofs.Connection.Grammar

/-!
# Readers follow the grammar

A reader is judged by what it does to the tokens ahead.  `Reads` says of a reader and
a construct of the grammar: in front of the tokens of such a construct it gives its
shape and leaves what follows, or refuses it because of a limit; and whatever it gives
is the shape of a construct that keeps the limits and stood in front.

The statement is closed under `composition`, so terms and expressions need no proofs of
their own, and nesting is an induction on the depth that is left.
-/

namespace LabMatch.Expression

/-- A construct of the grammar: its tokens, the shape that it stands for, and whether it
keeps the limits. -/
structure Construct (Item : Type) where
  tokens : Item → List Token
  shape : Item → Shape
  Fits : Item → Prop

def factors (depth : Nat) : Construct Factor :=
  ⟨Factor.tokens, Factor.shape, fun factor => factor.nesting ≤ depth ∧ factor.IsBounded⟩

def terms (depth : Nat) : Construct Term :=
  ⟨Term.tokens, Term.shape, fun term => term.nesting ≤ depth ∧ term.IsBounded⟩

def phrases (depth : Nat) : Construct Phrase :=
  ⟨Phrase.tokens, Phrase.shape, fun phrase => phrase.nesting ≤ depth ∧ phrase.IsBounded⟩

/-- The faults of texts that only exceed a limit. -/
def limitFaults : List SyntaxFault := [.nestedTooDeeply, .tooManyAlternatives maximalAlternatives]

/-- None of the marks comes first. -/
def Stops (marks : List Char) (tokens : List Token) : Prop :=
  ∀ mark ∈ marks, tokens.head? ≠ some (.mark mark)

variable {Item : Type} {construct : Construct Item} {reader : Reader} {continuing : List Char}

theorem stops_cons {mark : Char} {following : List Token} (hmark : mark ∉ continuing) :
    Stops continuing (.mark mark :: following) := by
  intro other hother hhead
  cases hhead
  exact hmark hother

/-- The reader reads the construct.  In front of one of the continuing marks it might
read on. -/
structure Reads (reader : Reader) (continuing : List Char) (construct : Construct Item) :
    Prop where
  accepts : ∀ item following input, construct.Fits item → Stops continuing following →
    Spells (construct.tokens item ++ following) input →
    ∃ rest, reader input = .ok (construct.shape item, rest) ∧ Spells following rest.val
  refuses : ∀ item following input, ¬ construct.Fits item → Stops continuing following →
    Spells (construct.tokens item ++ following) input →
    ∃ failure, reader input = .error failure ∧ failure.fault ∈ limitFaults
  sound : ∀ input shape rest, reader input = .ok (shape, rest) →
    ∃ item, construct.Fits item ∧ construct.shape item = shape ∧
      ∀ following, Spells following rest.val →
        Spells (construct.tokens item ++ following) input

/-! ## Compositions -/

section Composition

variable {mark : Char} {weigh : Nat → Nat → Nat}

abbrev Construct.count (construct : Construct Item) (item : Item) : Nat :=
  (construct.shape item).alternatives.length

/-- The bound on the number of alternatives after further members. -/
def Construct.weight (construct : Construct Item) (weigh : Nat → Nat → Nat) (start : Nat)
    (others : List Item) : Nat :=
  others.foldl (fun weight other => weigh weight (construct.count other)) start

/-- The further members keep the limits, and so does the composition if there are any. -/
def Construct.FitAfter (construct : Construct Item) (weigh : Nat → Nat → Nat) (start : Nat)
    (others : List Item) : Prop :=
  (∀ other ∈ others, construct.Fits other) ∧
    (others ≠ [] → construct.weight weigh start others ≤ maximalAlternatives)

def Construct.moreTokens (construct : Construct Item) (mark : Char) (others : List Item) :
    List Token :=
  others.flatMap fun other => .mark mark :: construct.tokens other

/-- Further members never lower the bound. -/
theorem le_weight (hweigh : ∀ weight count, 0 < count → weight ≤ weigh weight count)
    (start : Nat) (others : List Item) : start ≤ construct.weight weigh start others := by
  induction others generalizing start with
  | nil => exact Nat.le_refl start
  | cons other rest ih =>
    have hcount : 0 < construct.count other :=
      List.length_pos_of_ne_nil (construct.shape other).alternatives_ne_nil
    exact (hweigh start _ hcount).trans (ih _)

theorem fitAfter_nil {start : Nat} : construct.FitAfter weigh start [] :=
  ⟨fun _ hother => (List.not_mem_nil hother).elim, fun hne => absurd rfl hne⟩

/-- A bound that is kept at the end was kept after every member. -/
theorem fitAfter_cons_iff (hweigh : ∀ weight count, 0 < count → weight ≤ weigh weight count)
    {start : Nat} {first : Item} {others : List Item} :
    construct.FitAfter weigh start (first :: others) ↔
      construct.Fits first ∧ weigh start (construct.count first) ≤ maximalAlternatives ∧
        construct.FitAfter weigh (weigh start (construct.count first)) others := by
  have hweight : construct.weight weigh start (first :: others) =
      construct.weight weigh (weigh start (construct.count first)) others := rfl
  rw [Construct.FitAfter, Construct.FitAfter, hweight, List.forall_mem_cons]
  constructor
  · intro hfit
    have hbound := hfit.2 (List.cons_ne_nil first others)
    exact ⟨hfit.1.1, (le_weight hweigh _ others).trans hbound, hfit.1.2, fun _ => hbound⟩
  · intro hfit
    refine ⟨⟨hfit.1, hfit.2.2.1⟩, fun _ => ?_⟩
    by_cases hothers : others = []
    · subst hothers
      exact hfit.2.1
    · exact hfit.2.2.2 hothers

theorem moreTokens_cons (mark : Char) (first : Item) (others : List Item) :
    construct.moreTokens mark (first :: others) =
      .mark mark :: (construct.tokens first ++ construct.moreTokens mark others) :=
  List.flatMap_cons

theorem stops_moreTokens {following : List Token} {others : List Item}
    (hmark : mark ∉ continuing) (hstops : Stops (mark :: continuing) following) :
    Stops continuing (construct.moreTokens mark others ++ following) := by
  intro other hother
  cases others with
  | nil => exact hstops other (List.mem_cons_of_mem mark hother)
  | cons first rest => exact stops_cons hmark other hother

section Members

variable {member : Reader} {start : Nat} {input : List Char} {marked : Shorter input}
  {next : Shape} {afterNext : Shorter marked.val}

theorem members_of_token?_eq_none (htoken : token? mark input = none) :
    members mark weigh member start input = .ok ([], skipBlanks input) := by
  rw [members, htoken]

theorem members_of_member_eq_error {failure : Failure} (htoken : token? mark input = some marked)
    (hmember : member marked.val = .error failure) :
    members mark weigh member start input = .error failure := by
  rw [members, htoken]
  dsimp only
  rw [hmember]

/-- One more member is read, and what comes after it decides. -/
theorem members_of_member_eq_ok (htoken : token? mark input = some marked)
    (hmember : member marked.val = .ok (next, afterNext)) :
    members mark weigh member start input =
      if weigh start next.alternatives.length > maximalAlternatives then
        .error ⟨.tooManyAlternatives maximalAlternatives, afterNext.val⟩
      else
        (members mark weigh member (weigh start next.alternatives.length) afterNext.val).map
          fun read =>
            (next :: read.1, (marked.andThen (afterNext.andThen read.2).weaken).weaken) := by
  rw [members, htoken]
  dsimp only
  rw [hmember]
  dsimp only
  cases members mark weigh member (weigh start next.alternatives.length) afterNext.val with
  | error failure => rfl
  | ok read => rfl

end Members

variable (hreads : Reads reader continuing construct) (hmark : mark ∈ marks)
  (hnew : mark ∉ continuing) (hweigh : ∀ weight count, 0 < count → weight ≤ weigh weight count)

include hreads hnew hweigh

include hmark in
/-- Further members are read if they keep the limits. -/
theorem Reads.accepts_members {others : List Item} {start : Nat} {following : List Token}
    {input : List Char} (hfit : construct.FitAfter weigh start others)
    (hstops : Stops (mark :: continuing) following)
    (hspells : Spells (construct.moreTokens mark others ++ following) input) :
    ∃ rest, members mark weigh reader start input = .ok (others.map construct.shape, rest) ∧
      Spells following rest.val := by
  induction others generalizing start input with
  | nil =>
    have htoken := hspells.token?_eq_none hmark (hstops mark List.mem_cons_self)
    exact ⟨_, members_of_token?_eq_none htoken, spells_skipBlanks_iff.mpr hspells⟩
  | cons first others ih =>
    obtain ⟨hfirst, hbound, hothers⟩ := (fitAfter_cons_iff hweigh).mp hfit
    rw [moreTokens_cons, List.cons_append, List.append_assoc] at hspells
    obtain ⟨marked, htoken, hmarked⟩ := hspells.exists_token?
    obtain ⟨afterNext, hnext, hafter⟩ :=
      hreads.accepts first _ _ hfirst (stops_moreTokens hnew hstops) hmarked
    obtain ⟨rest, hrest, hfollowing⟩ := ih hothers hafter
    rw [members_of_member_eq_ok htoken hnext, if_neg (Nat.not_lt.mpr hbound), hrest]
    exact ⟨_, rfl, hfollowing⟩

/-- Further members are refused if they exceed a limit. -/
theorem Reads.refuses_members {others : List Item} {start : Nat} {following : List Token}
    {input : List Char} (hfit : ¬ construct.FitAfter weigh start others)
    (hstops : Stops (mark :: continuing) following)
    (hspells : Spells (construct.moreTokens mark others ++ following) input) :
    ∃ failure, members mark weigh reader start input = .error failure ∧
      failure.fault ∈ limitFaults := by
  induction others generalizing start input with
  | nil => exact absurd fitAfter_nil hfit
  | cons first others ih =>
    rw [moreTokens_cons, List.cons_append, List.append_assoc] at hspells
    obtain ⟨marked, htoken, hmarked⟩ := hspells.exists_token?
    have hfollowing : Stops continuing (construct.moreTokens mark others ++ following) :=
      stops_moreTokens hnew hstops
    by_cases hfirst : construct.Fits first
    · obtain ⟨afterNext, hnext, hafter⟩ := hreads.accepts first _ _ hfirst hfollowing hmarked
      rw [members_of_member_eq_ok htoken hnext]
      by_cases hbound : weigh start (construct.count first) ≤ maximalAlternatives
      · have hothers := fun hothers =>
          hfit ((fitAfter_cons_iff hweigh).mpr ⟨hfirst, hbound, hothers⟩)
        obtain ⟨failure, hfails, hlimit⟩ := ih hothers hafter
        rw [if_neg (Nat.not_lt.mpr hbound), hfails]
        exact ⟨failure, rfl, hlimit⟩
      · rw [if_pos (Nat.lt_of_not_le hbound)]
        exact ⟨_, rfl, by simp [limitFaults]⟩
    · obtain ⟨failure, hfails, hlimit⟩ := hreads.refuses first _ _ hfirst hfollowing hmarked
      exact ⟨failure, members_of_member_eq_error htoken hfails, hlimit⟩

include hmark in
omit hnew in
/-- What is read as further members was spelled by some. -/
theorem Reads.sound_members {start : Nat} {input : List Char} {shapes : List Shape}
    {rest : NotLonger input}
    (hread : members mark weigh reader start input = .ok (shapes, rest)) :
    ∃ others, construct.FitAfter weigh start others ∧ others.map construct.shape = shapes ∧
      ∀ following, Spells following rest.val →
        Spells (construct.moreTokens mark others ++ following) input := by
  fun_induction members mark weigh reader start input generalizing shapes with
  | case1 start input htoken =>
    cases hread
    refine ⟨[], fitAfter_nil, rfl, ?_⟩
    intro following hfollowing
    exact spells_skipBlanks_iff.mp hfollowing
  | case2 | case3 | case4 => cases hread
  | case5 start input marked htoken next afterNext hnext weight hbound _ others left hothers =>
    rename_i ih
    cases hread
    obtain ⟨first, hfirst, rfl, hspells⟩ := hreads.sound _ _ _ hnext
    obtain ⟨items, hfit, rfl, hmore⟩ := ih hothers
    refine ⟨first :: items,
      (fitAfter_cons_iff hweigh).mpr ⟨hfirst, Nat.le_of_not_lt hbound, hfit⟩, rfl, ?_⟩
    intro following hfollowing
    rw [moreTokens_cons, List.cons_append, List.append_assoc]
    exact spells_of_token? htoken hmark (hspells _ (hmore following hfollowing))

end Composition

/-- The wholes are the compositions of members joined by the mark. -/
structure Composes {Whole : Type} (whole : Construct Whole) (member : Construct Item) (mark : Char)
    (weigh : Nat → Nat → Nat) (combine : Shape → List Shape → Shape)
    (of : Item → List Item → Whole) : Prop where
  exists_of : ∀ item, ∃ first others, of first others = item
  tokens : ∀ first others,
    whole.tokens (of first others) = member.tokens first ++ member.moreTokens mark others
  shape : ∀ first others,
    whole.shape (of first others) = combine (member.shape first) (others.map member.shape)
  fits : ∀ first others, whole.Fits (of first others) ↔
    member.Fits first ∧ member.FitAfter weigh (member.count first) others

/-- A reader of members makes a reader of compositions. -/
theorem Reads.composition {Whole : Type} {whole : Construct Whole} {mark : Char}
    {weigh : Nat → Nat → Nat} {combine : Shape → List Shape → Shape}
    {of : Item → List Item → Whole} (hreads : Reads reader continuing construct)
    (hcomposes : Composes whole construct mark weigh combine of) (hmark : mark ∈ marks)
    (hnew : mark ∉ continuing)
    (hweigh : ∀ weight count, 0 < count → weight ≤ weigh weight count) :
    Reads (composition mark weigh combine reader) (mark :: continuing) whole where
  accepts item following input hfits hstops hspells := by
    obtain ⟨first, others, rfl⟩ := hcomposes.exists_of item
    rw [hcomposes.fits] at hfits
    rw [hcomposes.tokens, List.append_assoc] at hspells
    obtain ⟨afterFirst, hfirst, hmore⟩ :=
      hreads.accepts first _ _ hfits.1 (stops_moreTokens hnew hstops) hspells
    obtain ⟨rest, hothers, hfollowing⟩ :=
      hreads.accepts_members hmark hnew hweigh hfits.2 hstops hmore
    refine ⟨afterFirst.andThen rest, ?_, hfollowing⟩
    rw [Expression.composition, hfirst]
    dsimp only
    rw [hothers, hcomposes.shape]
  refuses item following input hfits hstops hspells := by
    obtain ⟨first, others, rfl⟩ := hcomposes.exists_of item
    rw [hcomposes.fits] at hfits
    rw [hcomposes.tokens, List.append_assoc] at hspells
    have hmoreStops : Stops continuing (construct.moreTokens mark others ++ following) :=
      stops_moreTokens hnew hstops
    rw [Expression.composition]
    by_cases hfirst : construct.Fits first
    · obtain ⟨afterFirst, hread, hmore⟩ := hreads.accepts first _ _ hfirst hmoreStops hspells
      have hothers := fun hothers => hfits ⟨hfirst, hothers⟩
      obtain ⟨failure, hfails, hlimit⟩ :=
        hreads.refuses_members hnew hweigh hothers hstops hmore
      rw [hread]
      dsimp only
      rw [hfails]
      exact ⟨failure, rfl, hlimit⟩
    · obtain ⟨failure, hfails, hlimit⟩ := hreads.refuses first _ _ hfirst hmoreStops hspells
      rw [hfails]
      exact ⟨failure, rfl, hlimit⟩
  sound input shape rest hread := by
    rw [Expression.composition] at hread
    split at hread
    · cases hread
    · rename_i next afterFirst hnext
      split at hread
      · cases hread
      · rename_i shapes left hmembers
        cases hread
        obtain ⟨first, hfirst, rfl, hspells⟩ := hreads.sound _ _ _ hnext
        obtain ⟨others, hfit, rfl, hmore⟩ := hreads.sound_members hmark hweigh hmembers
        refine ⟨of first others, (hcomposes.fits first others).mpr ⟨hfirst, hfit⟩,
          hcomposes.shape first others, fun following hfollowing => ?_⟩
        rw [hcomposes.tokens, List.append_assoc]
        exact hspells _ (hmore following hfollowing)

theorem foldr_max_le_iff {start bound : Nat} {values : List Nat} :
    values.foldr max start ≤ bound ↔ start ≤ bound ∧ ∀ value ∈ values, value ≤ bound := by
  induction values with
  | nil => simp
  | cons value others ih =>
    rw [List.foldr_cons, Nat.max_le, ih, List.forall_mem_cons]
    exact and_left_comm

/-- A composition keeps the limits if its members do and their weight is bounded. -/
theorem fits_of_iff {nesting : Item → Nat} {bounded : Item → Prop} {depth : Nat}
    {weigh : Nat → Nat → Nat} {first : Item} {others : List Item} {total : Nat}
    (hfits : ∀ item, construct.Fits item ↔ nesting item ≤ depth ∧ bounded item)
    (htotal : construct.weight weigh (construct.count first) others = total) :
    ((others.map nesting).foldr max (nesting first) ≤ depth ∧ bounded first ∧
        (∀ other ∈ others, bounded other) ∧ (others ≠ [] → total ≤ maximalAlternatives)) ↔
      construct.Fits first ∧ construct.FitAfter weigh (construct.count first) others := by
  have hothers : (∀ other ∈ others, construct.Fits other) ↔
      (∀ other ∈ others, nesting other ≤ depth) ∧ ∀ other ∈ others, bounded other := by
    simp only [hfits, ← forall_and]
  rw [Construct.FitAfter, hothers, htotal, hfits, foldr_max_le_iff, List.forall_mem_map]
  tauto

theorem Factor.count_shape (factor : Factor) :
    factor.shape.alternatives.length = factor.offers.ncard := by
  rw [← ncard_choices, factor.choices_shape]

theorem Term.count_shape (term : Term) :
    term.shape.alternatives.length = term.offers.ncard := by
  rw [← ncard_choices, term.choices_shape]

/-- Terms are composed of factors, whose numbers of alternatives multiply. -/
theorem composes_terms (depth : Nat) :
    Composes (terms depth) (factors depth) '&' (· * ·) Shape.allOf Term.of where
  exists_of item := by
    obtain ⟨first, others⟩ := item
    exact ⟨first, others, rfl⟩
  tokens := Term.tokens.eq_1
  shape := Term.shape.eq_1
  fits first others := by
    have htotal : (factors depth).weight (· * ·) ((factors depth).count first) others =
        (first.offers.ncard :: others.map fun other => other.offers.ncard).prod := by
      rw [Construct.weight, ← first.count_shape, List.prod_eq_foldl, List.foldl_cons, one_mul,
        List.foldl_map]
      simp only [← Factor.count_shape]
      rfl
    rw [← fits_of_iff (fun _ => Iff.rfl) htotal, ← Term.nesting, ← Term.IsBounded]
    rfl

/-- Phrases are composed of terms, whose numbers of alternatives add up. -/
theorem composes_phrases (depth : Nat) :
    Composes (phrases depth) (terms depth) '|' (· + ·) Shape.anyOf Phrase.of where
  exists_of item := by
    obtain ⟨first, others⟩ := item
    exact ⟨first, others, rfl⟩
  tokens := Phrase.tokens.eq_1
  shape := Phrase.shape.eq_1
  fits first others := by
    have htotal : (terms depth).weight (· + ·) ((terms depth).count first) others =
        (first.offers.ncard :: others.map fun other => other.offers.ncard).sum := by
      rw [Construct.weight, ← first.count_shape, List.sum_eq_foldl, List.foldl_cons, zero_add,
        List.foldl_map]
      simp only [← Term.count_shape]
      rfl
    rw [← fits_of_iff (fun _ => Iff.rfl) htotal, ← Phrase.nesting, ← Phrase.IsBounded]
    rfl

/-! ## Factors -/

section Factor

variable {input : List Char} {following : List Token}

theorem Spells.exists_chain {others : List Word}
    (hspells : Spells (chainTokens others ++ following) input) (hstops : Stops ['+'] following) :
    ∃ rest, chain input = .ok (others.map Word.text, rest) ∧ Spells following rest.val := by
  induction others generalizing input with
  | nil =>
    have htoken := hspells.token?_eq_none (by decide) (hstops '+' List.mem_cons_self)
    rw [chain, htoken]
    exact ⟨_, rfl, spells_skipBlanks_iff.mpr hspells⟩
  | cons first others ih =>
    obtain ⟨plus, htoken, hplus⟩ := Spells.exists_token? hspells
    obtain ⟨afterName, hname, hafter⟩ := hplus.exists_name
    obtain ⟨rest, hrest, hfollowing⟩ := ih hafter
    rw [chain, htoken]
    dsimp only
    rw [hname]
    dsimp only
    rw [if_neg first.noBareWord, hrest]
    exact ⟨_, rfl, hfollowing⟩

theorem spells_of_chain {texts : List String} {rest : NotLonger input}
    (hread : chain input = .ok (texts, rest)) :
    ∃ others : List Word, others.map Word.text = texts ∧
      ∀ following, Spells following rest.val → Spells (chainTokens others ++ following) input := by
  fun_induction chain input generalizing texts with
  | case1 input htoken =>
    cases hread
    refine ⟨[], rfl, ?_⟩
    intro following hfollowing
    exact spells_skipBlanks_iff.mp hfollowing
  | case2 | case3 | case4 => cases hread
  | case5 input plus htoken next afterName hname hne _ others rest hothers =>
    rename_i ih
    cases hread
    obtain ⟨words, rfl, hmore⟩ := ih hothers
    refine ⟨⟨next, hne⟩ :: words, rfl, ?_⟩
    intro following hfollowing
    exact spells_of_token? htoken (by decide) (spells_of_name hname (hmore following hfollowing))

/-- What may stand in parentheses when they may nest to the depth. -/
inductive ReadsInside : Option Reader → Nat → Prop
  | none : ReadsInside none 0
  | some {expression : Reader} {depth : Nat}
      (hreads : Reads expression ['|', '&', '+'] (phrases depth)) :
      ReadsInside (some expression) (depth + 1)

variable {inside : Option Reader} {depth : Nat}

theorem Spells.exists_factor_bare
    (hspells : Spells (Factor.bare.tokens ++ following) input) :
    ∃ rest, factor inside input = .ok (Factor.bare.shape, rest) ∧ Spells following rest.val := by
  rw [Factor.tokens] at hspells
  have htoken : token? '(' input = none :=
    hspells.token?_eq_none (by decide) fun hhead => by cases hhead
  obtain ⟨afterName, hname, hafter⟩ := Spells.exists_name hspells
  rw [factor, htoken]
  dsimp only
  rw [hname, Factor.shape]
  exact ⟨afterName, if_pos rfl, hafter⟩

theorem Spells.exists_factor_chain {first : Word} {others : List Word}
    (hspells : Spells ((Factor.chain first others).tokens ++ following) input)
    (hstops : Stops ['+'] following) :
    ∃ rest, factor inside input = .ok ((Factor.chain first others).shape, rest) ∧
      Spells following rest.val := by
  rw [Factor.tokens] at hspells
  have htoken : token? '(' input = none :=
    hspells.token?_eq_none (by decide) fun hhead => by cases hhead
  obtain ⟨afterName, hname, hafter⟩ := Spells.exists_name hspells
  obtain ⟨rest, hothers, hfollowing⟩ := Spells.exists_chain hafter hstops
  rw [factor, htoken]
  dsimp only
  rw [hname]
  dsimp only
  rw [if_neg first.noBareWord, hothers, Factor.shape, List.map_cons]
  exact ⟨afterName.andThen rest, rfl, hfollowing⟩

theorem fits_bare : (factors depth).Fits .bare := by
  simp only [factors, Factor.nesting, Factor.IsBounded, Nat.zero_le, and_self]

theorem fits_chain {first : Word} {others : List Word} :
    (factors depth).Fits (.chain first others) := by
  simp only [factors, Factor.nesting, Factor.IsBounded, Nat.zero_le, and_self]

/-- Parentheses nest one level deeper than what stands in them. -/
theorem fits_parenthesised_iff {inner : Phrase} :
    (factors depth).Fits (.parenthesised inner) ↔ inner.nesting + 1 ≤ depth ∧ inner.IsBounded := by
  simp only [factors, Factor.nesting, Factor.IsBounded]

/-- A factor that was read without parentheses came next. -/
theorem exists_factor_of_token?_eq_none {shape : Shape} {rest : Shorter input}
    (htoken : token? '(' input = none) (hread : factor inside input = .ok (shape, rest)) :
    ∃ item, (factors depth).Fits item ∧ item.shape = shape ∧
      ∀ following, Spells following rest.val → Spells (item.tokens ++ following) input := by
  rw [factor, htoken] at hread
  dsimp only at hread
  split at hread
  · cases hread
  · rename_i first afterName hname
    split at hread
    · rename_i hbare
      cases hread
      subst hbare
      refine ⟨.bare, fits_bare, Factor.shape.eq_2, ?_⟩
      intro following hfollowing
      rw [Factor.tokens]
      exact spells_of_name hname hfollowing
    · rename_i hne
      split at hread
      · cases hread
      · rename_i others left hothers
        cases hread
        obtain ⟨words, rfl, hmore⟩ := spells_of_chain hothers
        refine ⟨.chain ⟨first, hne⟩ words, fits_chain, Factor.shape.eq_3 _ _, ?_⟩
        intro following hfollowing
        rw [Factor.tokens]
        exact spells_of_name hname (hmore following hfollowing)

/-- A factor that was read in parentheses came next. -/
theorem exists_factor_of_token?_eq_some {shape : Shape} {opened rest : Shorter input}
    (hinside : ReadsInside inside depth) (htoken : token? '(' input = some opened)
    (hread : factor inside input = .ok (shape, rest)) :
    ∃ item, (factors depth).Fits item ∧ item.shape = shape ∧
      ∀ following, Spells following rest.val → Spells (item.tokens ++ following) input := by
  rw [factor, htoken] at hread
  dsimp only at hread
  cases hinside with
  | none => cases hread
  | @some expression depth hreads =>
    dsimp only at hread
    split at hread
    · cases hread
    · rename_i shape afterShape hshape
      split at hread
      · cases hread
      · rename_i closed hclosed
        cases hread
        obtain ⟨inner, hfits, hinner, hspells⟩ := hreads.sound _ _ _ hshape
        refine ⟨.parenthesised inner, ?_, (Factor.shape.eq_1 inner).trans hinner, ?_⟩
        · exact fits_parenthesised_iff.mpr ⟨Nat.succ_le_succ hfits.1, hfits.2⟩
        intro following hfollowing
        rw [Factor.tokens, List.cons_append, List.append_assoc]
        exact spells_of_token? htoken (by decide)
          (hspells _ (spells_of_token? hclosed (by decide) hfollowing))

theorem Spells.exists_opened {inner : Phrase}
    (hspells : Spells ((Factor.parenthesised inner).tokens ++ following) input) :
    ∃ opened, token? '(' input = some opened ∧
      Spells (inner.tokens ++ .mark ')' :: following) opened.val := by
  rw [Factor.tokens, List.cons_append, List.append_assoc] at hspells
  exact Spells.exists_token? hspells

/-- Factors are read as the grammar has them, if what stands in parentheses is. -/
theorem ReadsInside.factor (hinside : ReadsInside inside depth) :
    Reads (factor inside) ['+'] (factors depth) where
  accepts item following input hfits hstops hspells := by
    cases item with
    | bare => exact Spells.exists_factor_bare hspells
    | chain first others => exact Spells.exists_factor_chain hspells hstops
    | parenthesised inner =>
      rw [fits_parenthesised_iff] at hfits
      obtain ⟨opened, htoken, hopened⟩ := Spells.exists_opened hspells
      rw [Expression.factor, htoken]
      cases hinside with
      | none => exact absurd hfits.1 (Nat.not_succ_le_zero _)
      | some hreads =>
        obtain ⟨afterShape, hshape, hclosing⟩ := hreads.accepts inner _ _
          ⟨Nat.le_of_succ_le_succ hfits.1, hfits.2⟩ (stops_cons (by decide)) hopened
        obtain ⟨closed, hclosed, hfollowing⟩ := hclosing.exists_token?
        refine ⟨opened.andThen (afterShape.andThen closed.weaken).weaken, ?_, hfollowing⟩
        dsimp only
        rw [hshape]
        dsimp only
        rw [hclosed]
        exact congrArg (fun shape => Except.ok (shape, _)) (Factor.shape.eq_1 inner).symm
  refuses item following input hfits hstops hspells := by
    cases item with
    | bare => exact absurd fits_bare hfits
    | chain first others => exact absurd fits_chain hfits
    | parenthesised inner =>
      rw [fits_parenthesised_iff] at hfits
      obtain ⟨opened, htoken, hopened⟩ := Spells.exists_opened hspells
      rw [Expression.factor, htoken]
      cases hinside with
      | none => exact ⟨_, rfl, List.mem_cons_self⟩
      | some hreads =>
        have hinner := fun hinner : inner.nesting ≤ _ ∧ inner.IsBounded =>
          hfits ⟨Nat.succ_le_succ hinner.1, hinner.2⟩
        obtain ⟨failure, hfails, hlimit⟩ :=
          hreads.refuses inner _ _ hinner (stops_cons (by decide)) hopened
        dsimp only
        rw [hfails]
        exact ⟨failure, rfl, hlimit⟩
  sound input shape rest hread := by
    cases htoken : token? '(' input with
    | none => exact exists_factor_of_token?_eq_none htoken hread
    | some opened => exact exists_factor_of_token?_eq_some hinside htoken hread

theorem ReadsInside.term (hinside : ReadsInside inside depth) :
    Reads (term inside) ['&', '+'] (terms depth) := by
  have hproduct : ∀ weight count : Nat, 0 < count → weight ≤ weight * count :=
    fun weight count hcount => Nat.le_mul_of_pos_right weight hcount
  exact hinside.factor.composition (composes_terms depth) (by decide) (by decide) hproduct

theorem ReadsInside.expressionWithin (hinside : ReadsInside inside depth) :
    Reads (expressionWithin inside) ['|', '&', '+'] (phrases depth) := by
  have hsum : ∀ weight count : Nat, 0 < count → weight ≤ weight + count :=
    fun weight count _ => Nat.le_add_right weight count
  exact hinside.term.composition (composes_phrases depth) (by decide) (by decide) hsum

end Factor

/-- The reader of expressions reads the phrases whose parentheses nest at most to its
depth. -/
theorem reads_expression (depth : Nat) :
    Reads (expression depth) ['|', '&', '+'] (phrases depth) := by
  induction depth with
  | zero => exact ReadsInside.none.expressionWithin
  | succ depth ih => exact (ReadsInside.some ih).expressionWithin

end LabMatch.Expression
