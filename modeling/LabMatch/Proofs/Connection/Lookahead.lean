import LabMatch.Proofs.Connection.Accepted

/-!
# Readers look one character ahead

A reader decides by what it consumes and by the first character that it leaves.  So
what follows can be exchanged: as long as a reader leaves all of the old end of the
text, it does the same on a text with another end, provided that the new end is empty or
starts as the old one does.
-/

namespace LabMatch.Expression

/-- `after` has the end `new` where `before` has the end `old`. -/
def Replaced (old new before after : List Char) : Prop :=
  ∃ kept, before = kept ++ old ∧ after = kept ++ new

section Outcomes

variable {old new : List Char} {Value Next : Type} {bound bound' after after' : List Char → Prop}

def leftOver : Except Failure (Value × Subtype bound) → List Char
  | .error failure => failure.rest
  | .ok (_, rest) => rest.val

/-- If the first outcome leaves all of `old`, the second one is the same up to the
exchange of the ends. -/
def CarriesOver (old new : List Char) (outcome : Except Failure (Value × Subtype bound))
    (outcome' : Except Failure (Value × Subtype bound')) : Prop :=
  old <:+ leftOver outcome →
    match outcome with
    | .error failure =>
      ∃ rest, outcome' = .error ⟨failure.fault, rest⟩ ∧ Replaced old new failure.rest rest
    | .ok (value, rest) =>
      ∃ rest', outcome' = .ok (value, rest') ∧ Replaced old new rest.val rest'.val

theorem EndsIn.isSuffix {text : List Char} {outcome : Except Failure (Value × Subtype bound)}
    (hends : EndsIn text outcome) : leftOver outcome <:+ text := by
  cases outcome with
  | error failure => exact Position.isSuffix hends
  | ok read => exact Position.isSuffix hends

section Elimination

variable {outcome : Except Failure (Value × Subtype bound)}
  {outcome' : Except Failure (Value × Subtype bound')}
  (hcarries : CarriesOver old new outcome outcome')

include hcarries

theorem CarriesOver.of_error {failure : Failure} (herror : outcome = .error failure)
    (hleft : old <:+ failure.rest) :
    ∃ rest, outcome' = .error ⟨failure.fault, rest⟩ ∧ Replaced old new failure.rest rest := by
  subst herror
  exact hcarries hleft

/-- A reader that leaves the exchanged end reads the same before the new one. -/
theorem CarriesOver.of_ok {value : Value} {rest : Subtype bound}
    (hok : outcome = .ok (value, rest)) (hleft : old <:+ rest.val) :
    ∃ rest', outcome' = .ok (value, rest') ∧ Replaced old new rest.val rest'.val := by
  subst hok
  exact hcarries hleft

end Elimination

theorem carriesOver_error {fault : SyntaxFault} {rest rest' : List Char}
    (hreplaced : Replaced old new rest rest') :
    CarriesOver old new (.error ⟨fault, rest⟩ : Except Failure (Value × Subtype bound))
      (.error ⟨fault, rest'⟩ : Except Failure (Value × Subtype bound')) :=
  fun _ => ⟨rest', rfl, hreplaced⟩

theorem carriesOver_ok {value : Value} {rest : Subtype bound} {rest' : Subtype bound'}
    (hreplaced : Replaced old new rest.val rest'.val) :
    CarriesOver old new (.ok (value, rest)) (.ok (value, rest')) :=
  fun _ => ⟨rest', rfl, hreplaced⟩

variable {first : Except Failure (Value × Subtype bound)}
  {next : Value × Subtype bound → Except Failure (Next × Subtype after)}
  {first' : Except Failure (Value × Subtype bound')}
  {next' : Value × Subtype bound' → Except Failure (Next × Subtype after')}

theorem leftOver_bind (hnext : ∀ read, leftOver (next read) <:+ read.2.val) :
    leftOver (first.bind next) <:+ leftOver first := by
  cases first with
  | error failure => exact List.suffix_refl _
  | ok read => exact hnext read

/-- Two steps in a row carry over if each of them does. -/
theorem CarriesOver.bind (hfirst : CarriesOver old new first first')
    (hends : ∀ read, leftOver (next read) <:+ read.2.val)
    (hnext : ∀ value rest rest', Replaced old new rest.val rest'.val →
      CarriesOver old new (next (value, rest)) (next' (value, rest'))) :
    CarriesOver old new (first.bind next) (first'.bind next') := by
  intro hleft
  cases first with
  | error failure =>
    obtain ⟨rest, rfl, hrest⟩ := hfirst hleft
    exact ⟨rest, rfl, hrest⟩
  | ok read =>
    obtain ⟨rest', rfl, hrest⟩ := hfirst (hleft.trans (hends read))
    exact hnext read.1 read.2 rest' hrest hleft

end Outcomes

/-! ## Single tokens -/

section Characters

variable {old new before after input input' : List Char}

theorem replaced_self : Replaced old new old new := ⟨[], rfl, rfl⟩

theorem span_of_head? {accepted : Char → Bool} {list : List Char}
    (hhead : ∀ character ∈ list.head?, accepted character = false) :
    list.dropWhile accepted = list ∧ list.takeWhile accepted = [] := by
  cases list with
  | nil => exact ⟨rfl, rfl⟩
  | cons first rest => simp [hhead first rfl]

variable (hstart : ∀ character ∈ new.head?, character ∈ old.head?)

include hstart

theorem Replaced.dropWhile {accepted : Char → Bool} (hreplaced : Replaced old new before after)
    (hleft : old <:+ before.dropWhile accepted) :
    Replaced old new (before.dropWhile accepted) (after.dropWhile accepted) ∧
      after.takeWhile accepted = before.takeWhile accepted := by
  obtain ⟨kept, rfl, rfl⟩ := hreplaced
  induction kept with
  | nil =>
    have hdrop := hleft.eq_of_length_le (List.dropWhile_suffix accepted).length_le
    simp only [List.nil_append] at hdrop ⊢
    have hold : ∀ character ∈ old.head?, accepted character = false := by
      intro character hcharacter
      have hnot := List.head?_dropWhile_not accepted old
      rw [← hdrop, Option.mem_def.mp hcharacter] at hnot
      simpa using hnot
    obtain ⟨hsame, hnone⟩ := span_of_head? hold
    obtain ⟨hsame', hnone'⟩ := span_of_head? fun character hcharacter =>
      hold character (hstart character hcharacter)
    rw [hsame, hsame', hnone, hnone']
    exact ⟨replaced_self, rfl⟩
  | cons first kept ih =>
    by_cases hfirst : accepted first
    · simp only [List.cons_append, List.dropWhile_cons_of_pos hfirst,
        List.takeWhile_cons_of_pos hfirst] at hleft ⊢
      exact ⟨(ih hleft).1, congrArg _ (ih hleft).2⟩
    · simp only [List.cons_append, List.dropWhile_cons_of_neg hfirst,
        List.takeWhile_cons_of_neg hfirst]
      exact ⟨⟨first :: kept, rfl, rfl⟩, trivial⟩

theorem Replaced.skipBlanks (hreplaced : Replaced old new input input')
    (hleft : old <:+ (skipBlanks input).val) :
    Replaced old new (skipBlanks input).val (Expression.skipBlanks input').val :=
  (hreplaced.dropWhile hstart hleft).1

/-- A mark that is read, with all of `old` after it, is read in front of `new` too. -/
theorem Replaced.exists_token? (hreplaced : Replaced old new input input') {expected : Char}
    {rest : Shorter input} (htoken : token? expected input = some rest)
    (hleft : old <:+ rest.val) :
    ∃ rest', token? expected input' = some rest' ∧ Replaced old new rest.val rest'.val := by
  have hblanks := token?_eq_some_iff.mp htoken
  have hskipped := hreplaced.skipBlanks hstart
    (hblanks ▸ hleft.trans (List.suffix_cons expected rest.val))
  obtain ⟨kept, hkept, hkept'⟩ := hskipped
  obtain ⟨rest, hshorter⟩ := rest
  obtain ⟨more, rfl⟩ := hleft
  rw [hblanks, ← List.cons_append] at hkept
  rw [← List.append_cancel_right hkept, List.cons_append] at hkept'
  have hshorter' : (more ++ new).length < input'.length := by
    have hlength := (Expression.skipBlanks input').property
    rw [hkept', List.length_cons] at hlength
    omega
  exact ⟨⟨more ++ new, hshorter'⟩, token?_eq_some_iff.mpr hkept', more, rfl, rfl⟩

theorem Replaced.token?_eq_none (hreplaced : Replaced old new input input') {expected : Char}
    (htoken : token? expected input = none)
    (hleft : old <:+ (Expression.skipBlanks input).val) :
    token? expected input' = none := by
  rw [token?_eq_none_iff] at htoken ⊢
  obtain ⟨kept, hkept, hkept'⟩ := hreplaced.skipBlanks hstart hleft
  rw [hkept] at htoken
  rw [hkept']
  cases kept with
  | nil => exact fun hhead => htoken (hstart expected hhead)
  | cons first others => exact htoken

/-- A name that ends before the exchanged part is read alike. -/
theorem Replaced.name (hreplaced : Replaced old new input input') :
    CarriesOver old new (name input) (Expression.name input') := by
  cases hname : Expression.name input with
  | error failure =>
    obtain ⟨rfl, htake⟩ := name_eq_error_iff.mp hname
    intro hleft
    have hskipped := hreplaced.skipBlanks hstart hleft
    have hsame := List.takeWhile_append_dropWhile (p := isNameCharacter)
      (l := (Expression.skipBlanks input).val)
    rw [htake, List.nil_append] at hsame
    have htake' := (hskipped.dropWhile hstart (hsame.symm ▸ hleft)).2
    exact ⟨_, name_eq_error_iff.mpr ⟨rfl, htake'.trans htake⟩, hskipped⟩
  | ok read =>
    obtain ⟨text, rest⟩ := read
    obtain ⟨characters, hne, rfl, htake, hdrop⟩ := name_eq_ok hname
    intro hleft
    rw [leftOver, ← hdrop] at hleft
    have hskipped := hreplaced.skipBlanks hstart (hleft.trans (List.dropWhile_suffix _))
    obtain ⟨hrest, htake'⟩ := hskipped.dropWhile hstart hleft
    obtain ⟨rest', hname', hrest'⟩ := exists_name_eq_ok hne (htake'.trans htake) rfl
    exact ⟨rest', hname', hrest' ▸ hdrop ▸ hrest⟩

end Characters

/-! ## Readers, step by step -/

section Steps

/-- A name is read from the first character that is not blank. -/
theorem leftOver_name (input : List Char) :
    leftOver (name input) <:+ (skipBlanks input).val := by
  cases hname : name input with
  | error failure =>
    obtain ⟨rfl, -⟩ := name_eq_error_iff.mp hname
    exact List.suffix_refl _
  | ok read =>
    obtain ⟨characters, -, -, -, hdrop⟩ := name_eq_ok hname
    rw [leftOver, ← hdrop]
    exact List.dropWhile_suffix _

theorem leftOver_chain (input : List Char) : leftOver (chain input) <:+ input :=
  (endsIn_chain .start).isSuffix

theorem leftOver_reader {reader : Reader} (hmoves : ∀ text, Moves text reader)
    (input : List Char) : leftOver (reader input) <:+ input :=
  (hmoves input input .start).isSuffix

variable {input : List Char}

def chainStep (plus : Shorter input) (next : String × Shorter plus.val) :
    Except Failure (List String × NotLonger input) :=
  if next.1 = TagSet.bareWord then .error ⟨.bareWordInChain, next.2.val⟩
  else (chain next.2.val).bind fun others =>
    .ok (next.1 :: others.1, (plus.andThen (next.2.andThen others.2).weaken).weaken)

theorem leftOver_chainStep (plus : Shorter input) (next : String × Shorter plus.val) :
    leftOver (chainStep plus next) <:+ next.2.val := by
  rw [chainStep]
  split
  · exact List.suffix_refl _
  · exact (leftOver_bind fun _ => List.suffix_refl _).trans (leftOver_chain next.2.val)

theorem chain_of_token?_eq_none (htoken : token? '+' input = none) :
    chain input = .ok ([], skipBlanks input) := by
  rw [chain, htoken]

theorem chain_of_token?_eq_some {plus : Shorter input} (htoken : token? '+' input = some plus) :
    chain input = (name plus.val).bind (chainStep plus) := by
  rw [chain, htoken]
  dsimp only
  cases name plus.val with
  | error failure => rfl
  | ok next =>
    refine if_congr Iff.rfl rfl ?_
    cases chain next.2.val <;> rfl

def linkStep (first : String × Shorter input) : Except Failure (Shape × Shorter input) :=
  if first.1 = TagSet.bareWord then .ok (.link .bare, first.2)
  else (chain first.2.val).bind fun others =>
    .ok (.link (TagSet.ofList (first.1 :: others.1)), first.2.andThen others.2)

theorem leftOver_linkStep (first : String × Shorter input) :
    leftOver (linkStep first) <:+ first.2.val := by
  rw [linkStep]
  split
  · exact List.suffix_refl _
  · exact (leftOver_bind fun _ => List.suffix_refl _).trans (leftOver_chain first.2.val)

theorem factor_of_token?_eq_none {inside : Option Reader} (htoken : token? '(' input = none) :
    factor inside input = (name input).bind linkStep := by
  rw [factor, htoken]
  dsimp only
  cases name input with
  | error failure => rfl
  | ok first =>
    refine if_congr Iff.rfl rfl ?_
    cases chain first.2.val <;> rfl

def closingStep (opened : Shorter input) (inner : Shape × Shorter opened.val) :
    Except Failure (Shape × Shorter input) :=
  match token? ')' inner.2.val with
  | none => .error ⟨.expectedClosing, (skipBlanks inner.2.val).val⟩
  | some closed => .ok (inner.1, opened.andThen (inner.2.andThen closed.weaken).weaken)

theorem leftOver_closingStep (opened : Shorter input) (inner : Shape × Shorter opened.val) :
    leftOver (closingStep opened inner) <:+ inner.2.val := by
  rw [closingStep]
  split
  · exact List.dropWhile_suffix _
  · rename_i closed hclosed
    exact (Position.start.mark hclosed).isSuffix

theorem factor_of_token?_eq_some {expression : Reader} {opened : Shorter input}
    (htoken : token? '(' input = some opened) :
    factor (some expression) input = (expression opened.val).bind (closingStep opened) := by
  rw [factor, htoken]
  dsimp only
  cases expression opened.val with
  | error failure => rfl
  | ok inner =>
    dsimp only [Except.bind, closingStep]
    cases token? ')' inner.2.val <;> rfl

variable {mark : Char} {weigh : Nat → Nat → Nat} {member : Reader} {weight : Nat}

def memberStep (mark : Char) (weigh : Nat → Nat → Nat) (member : Reader) (weight : Nat)
    (marked : Shorter input) (next : Shape × Shorter marked.val) :
    Except Failure (List Shape × NotLonger input) :=
  if weigh weight next.1.alternatives.length > maximalAlternatives then
    .error ⟨.tooManyAlternatives maximalAlternatives, next.2.val⟩
  else
    (members mark weigh member (weigh weight next.1.alternatives.length) next.2.val).bind
      fun others =>
        .ok (next.1 :: others.1, (marked.andThen (next.2.andThen others.2).weaken).weaken)

theorem leftOver_members (hmoves : ∀ text, Moves text member) (weight : Nat)
    (input : List Char) : leftOver (members mark weigh member weight input) <:+ input :=
  (endsIn_members (hmoves input) .start).isSuffix

theorem leftOver_memberStep (hmoves : ∀ text, Moves text member) (marked : Shorter input)
    (next : Shape × Shorter marked.val) :
    leftOver (memberStep mark weigh member weight marked next) <:+ next.2.val := by
  rw [memberStep]
  split
  · exact List.suffix_refl _
  · exact (leftOver_bind fun _ => List.suffix_refl _).trans (leftOver_members hmoves _ _)

theorem members_of_token?_eq_some {marked : Shorter input}
    (htoken : token? mark input = some marked) :
    members mark weigh member weight input =
      (member marked.val).bind (memberStep mark weigh member weight marked) := by
  rw [members, htoken]
  dsimp only
  cases member marked.val with
  | error failure => rfl
  | ok next =>
    refine if_congr Iff.rfl rfl ?_
    cases members mark weigh member (weigh weight next.1.alternatives.length) next.2.val <;> rfl

def compositionStep (mark : Char) (weigh : Nat → Nat → Nat)
    (combine : Shape → List Shape → Shape) (member : Reader) (first : Shape × Shorter input) :
    Except Failure (Shape × Shorter input) :=
  (members mark weigh member first.1.alternatives.length first.2.val).bind fun others =>
    .ok (combine first.1 others.1, first.2.andThen others.2)

theorem composition_eq_bind {combine : Shape → List Shape → Shape} :
    composition mark weigh combine member input =
      (member input).bind (compositionStep mark weigh combine member) := by
  rw [composition]
  cases member input with
  | error failure => rfl
  | ok first =>
    dsimp only [Except.bind, compositionStep]
    cases members mark weigh member first.1.alternatives.length first.2.val <;> rfl

end Steps

/-! ## Exchanged ends -/

/-- Exchanging the end of the text carries over to the outcome of the reader. -/
def CarriedBy (old new : List Char) (reader : Reader) : Prop :=
  ∀ input input', Replaced old new input input' →
    CarriesOver old new (reader input) (reader input')

section Exchange

variable {old new : List Char} (hstart : ∀ character ∈ new.head?, character ∈ old.head?)

include hstart

theorem Replaced.chain {input input' : List Char} (hreplaced : Replaced old new input input') :
    CarriesOver old new (Expression.chain input) (Expression.chain input') := by
  intro hleft
  cases htoken : token? '+' input with
  | none =>
    rw [chain_of_token?_eq_none htoken] at hleft ⊢
    rw [chain_of_token?_eq_none (hreplaced.token?_eq_none hstart htoken hleft)]
    exact ⟨_, rfl, hreplaced.skipBlanks hstart hleft⟩
  | some plus =>
    have hname := (leftOver_name plus.val).trans (List.dropWhile_suffix _)
    rw [chain_of_token?_eq_some htoken] at hleft ⊢
    obtain ⟨plus', htoken', hplus⟩ := hreplaced.exists_token? hstart htoken
      (hleft.trans ((leftOver_bind (leftOver_chainStep plus)).trans hname))
    rw [chain_of_token?_eq_some htoken']
    refine (hplus.name hstart).bind (leftOver_chainStep plus) ?_ hleft
    intro next afterName afterName' hafter
    rw [chainStep, chainStep]
    split
    · exact carriesOver_error hafter
    · have := Nat.lt_trans afterName.property plus.property
      refine (Replaced.chain hafter).bind (fun _ => List.suffix_refl _) ?_
      intro others rest rest' hrest
      exact carriesOver_ok hrest
termination_by input.length

section Composition

variable {mark : Char} {weigh : Nat → Nat → Nat} {member : Reader}

/-- Exchanging the end carries over to further members. -/
theorem carriesOver_members (hcarried : CarriedBy old new member)
    (hmoves : ∀ text, Moves text member) {weight : Nat} {input input' : List Char}
    (hreplaced : Replaced old new input input') :
    CarriesOver old new (members mark weigh member weight input)
      (members mark weigh member weight input') := by
  intro hleft
  cases htoken : token? mark input with
  | none =>
    rw [members_of_token?_eq_none htoken] at hleft ⊢
    rw [members_of_token?_eq_none (hreplaced.token?_eq_none hstart htoken hleft)]
    exact ⟨_, rfl, hreplaced.skipBlanks hstart hleft⟩
  | some marked =>
    have hstep : ∀ next, leftOver (memberStep mark weigh member weight marked next) <:+
        next.2.val := leftOver_memberStep hmoves marked
    rw [members_of_token?_eq_some htoken] at hleft ⊢
    obtain ⟨marked', htoken', hmarked⟩ := hreplaced.exists_token? hstart htoken
      (hleft.trans ((leftOver_bind hstep).trans (leftOver_reader hmoves marked.val)))
    rw [members_of_token?_eq_some htoken']
    refine (hcarried _ _ hmarked).bind hstep ?_ hleft
    intro next afterNext afterNext' hafter
    rw [memberStep, memberStep]
    split
    · exact carriesOver_error hafter
    · have := Nat.lt_trans afterNext.property marked.property
      refine (carriesOver_members hcarried hmoves hafter).bind (fun _ => List.suffix_refl _) ?_
      intro others rest rest' hrest
      exact carriesOver_ok hrest
termination_by input.length

theorem carriedBy_composition {combine : Shape → List Shape → Shape}
    (hcarried : CarriedBy old new member) (hmoves : ∀ text, Moves text member) :
    CarriedBy old new (composition mark weigh combine member) := by
  intro input input' hreplaced
  rw [composition_eq_bind, composition_eq_bind]
  refine (hcarried input input' hreplaced).bind ?_ ?_
  · intro first
    exact (leftOver_bind fun _ => List.suffix_refl _).trans (leftOver_members hmoves _ _)
  · intro first afterFirst afterFirst' hafter
    refine (carriesOver_members hstart hcarried hmoves hafter).bind
      (fun _ => List.suffix_refl _) ?_
    intro others rest rest' hrest
    exact carriesOver_ok hrest

end Composition

theorem carriesOver_closingStep {input input' : List Char} {opened : Shorter input}
    {opened' : Shorter input'} {shape : Shape} {rest : Shorter opened.val}
    {rest' : Shorter opened'.val} (hreplaced : Replaced old new rest.val rest'.val) :
    CarriesOver old new (closingStep opened (shape, rest))
      (closingStep opened' (shape, rest')) := by
  intro hleft
  rw [closingStep] at hleft ⊢
  cases hclosed : token? ')' rest.val with
  | none =>
    rw [hclosed] at hleft
    rw [closingStep, hreplaced.token?_eq_none hstart hclosed hleft]
    exact ⟨_, rfl, hreplaced.skipBlanks hstart hleft⟩
  | some closed =>
    rw [hclosed] at hleft
    obtain ⟨closed', hclosed', hafter⟩ := hreplaced.exists_token? hstart hclosed hleft
    rw [closingStep, hclosed']
    exact ⟨_, rfl, hafter⟩

/-- Exchanging the end carries over to factors, if it does inside parentheses. -/
theorem carriedBy_factor {inside : Option Reader}
    (hcarried : ∀ reader ∈ inside, CarriedBy old new reader)
    (hmoves : ∀ text, ∀ reader ∈ inside, Moves text reader) :
    CarriedBy old new (factor inside) := by
  intro input input' hreplaced hleft
  cases htoken : token? '(' input with
  | none =>
    rw [factor_of_token?_eq_none htoken] at hleft ⊢
    rw [factor_of_token?_eq_none (hreplaced.token?_eq_none hstart htoken
      (hleft.trans ((leftOver_bind leftOver_linkStep).trans (leftOver_name input))))]
    refine (hreplaced.name hstart).bind leftOver_linkStep ?_ hleft
    intro first afterName afterName' hafter
    rw [linkStep, linkStep]
    split
    · exact carriesOver_ok hafter
    · refine (hafter.chain hstart).bind (fun _ => List.suffix_refl _) ?_
      intro others rest rest' hrest
      exact carriesOver_ok hrest
  | some opened =>
    cases inside with
    | none =>
      have hfails : factor none input = .error ⟨.nestedTooDeeply, opened.val⟩ := by
        rw [factor, htoken]
      rw [hfails] at hleft ⊢
      obtain ⟨opened', htoken', hopened⟩ := hreplaced.exists_token? hstart htoken hleft
      rw [factor, htoken']
      exact ⟨opened'.val, rfl, hopened⟩
    | some expression =>
      have hinside := leftOver_reader fun text => hmoves text expression rfl
      rw [factor_of_token?_eq_some htoken] at hleft ⊢
      obtain ⟨opened', htoken', hopened⟩ := hreplaced.exists_token? hstart htoken
        (hleft.trans ((leftOver_bind (leftOver_closingStep opened)).trans (hinside opened.val)))
      rw [factor_of_token?_eq_some htoken']
      refine (hcarried expression rfl _ _ hopened).bind (leftOver_closingStep opened) ?_ hleft
      intro shape afterShape afterShape' hafter
      exact carriesOver_closingStep hstart hafter

end Exchange

/-- The reader moves over tokens only, and nothing but the first character that it leaves
decides where it stops. -/
structure LooksAhead (reader : Reader) : Prop where
  moves : ∀ text, Moves text reader
  carried : ∀ old new : List Char, (∀ character ∈ new.head?, character ∈ old.head?) →
    CarriedBy old new reader

theorem LooksAhead.composition {mark : Char} {weigh : Nat → Nat → Nat} {member : Reader}
    {combine : Shape → List Shape → Shape} (hmember : LooksAhead member) :
    LooksAhead (composition mark weigh combine member) where
  moves text := moves_composition (hmember.moves text)
  carried old new hstart := carriedBy_composition hstart (hmember.carried old new hstart)
    hmember.moves

section Inside

variable {inside : Option Reader} (hinside : ∀ reader ∈ inside, LooksAhead reader)

include hinside

theorem looksAhead_factor : LooksAhead (factor inside) where
  moves text := moves_factor fun reader hreader => (hinside reader hreader).moves text
  carried old new hstart := carriedBy_factor hstart
    (fun reader hreader => (hinside reader hreader).carried old new hstart)
    fun text reader hreader => (hinside reader hreader).moves text

theorem looksAhead_term : LooksAhead (term inside) :=
  (looksAhead_factor hinside).composition

theorem looksAhead_expressionWithin : LooksAhead (expressionWithin inside) :=
  (looksAhead_term hinside).composition

end Inside

/-- The reader of expressions looks one character ahead, at any depth. -/
theorem looksAhead_expression (depth : Nat) : LooksAhead (expression depth) := by
  induction depth with
  | zero =>
    apply looksAhead_expressionWithin
    intro reader hreader
    cases hreader
  | succ depth ih =>
    apply looksAhead_expressionWithin
    intro reader hreader
    cases hreader
    exact ih

end LabMatch.Expression
