import LabMatch.Proofs.Connection.Lookahead

/-!
# Faults point at the first offence

Where a reader gives up for a reason other than a limit, what it has consumed is the
beginning of a well-formed text, and the next character, if there is one, makes it a
beginning of none.  The first part completes what every reader left unfinished; the
second part exchanges everything after that character, which changes nothing for the
reader.
-/

namespace LabMatch

namespace Expression

/-! ## Beginnings of texts -/

/-- The input up to the rest spells the tokens. -/
def Covers (tokens : List Token) (input rest : List Char) : Prop :=
  ∃ front, input = front ++ rest ∧ Spells tokens front

/-- The input up to the rest can be continued to a text that spells the tokens. -/
def Begins (tokens : List Token) (input rest : List Char) : Prop :=
  ∃ front more, input = front ++ rest ∧ Spells tokens (front ++ more)

section Beginnings

variable {tokens others : List Token} {input middle rest : List Char} {mark : Char}

theorem Covers.begins (hcovers : Covers tokens input rest) : Begins tokens input rest := by
  obtain ⟨front, hinput, hspells⟩ := hcovers
  exact ⟨front, [], hinput, by rwa [List.append_nil]⟩

/-- Nothing that starts with a mark starts with a character of a name. -/
theorem Spells.head?_of_mark (hspells : Spells (.mark mark :: tokens) input) :
    ∀ character ∈ input.head?, isNameCharacter character = false := by
  intro character hcharacter
  cases hspells with
  | blank hblank hrest =>
    cases hcharacter
    exact isNameCharacter_of_isWhiteSpace hblank
  | mark hmark hrest =>
    cases hcharacter
    exact isNameCharacter_of_mem_marks hmark

theorem Covers.append_begins (hcovers : Covers tokens input middle)
    (hbegins : Begins (.mark mark :: others) middle rest) :
    Begins (tokens ++ .mark mark :: others) input rest := by
  obtain ⟨front, rfl, hspells⟩ := hcovers
  obtain ⟨back, more, rfl, hmore⟩ := hbegins
  refine ⟨front ++ back, more, (List.append_assoc _ _ _).symm, ?_⟩
  rw [List.append_assoc]
  exact hspells.append hmore hmore.head?_of_mark

/-- What was begun can be closed. -/
theorem Begins.append_mark (hbegins : Begins tokens input rest) (hmark : mark ∈ marks) :
    Begins (tokens ++ [.mark mark]) input rest := by
  obtain ⟨front, more, rfl, hspells⟩ := hbegins
  have hmarked : Spells [.mark mark] [mark] := .mark hmark .nil
  refine ⟨front, more ++ [mark], rfl, ?_⟩
  rw [← List.append_assoc]
  exact hspells.append hmarked hmarked.head?_of_mark

theorem takeWhile_append_skipBlanks (input : List Char) :
    input.takeWhile Unicode.isWhiteSpace ++ (skipBlanks input).val = input :=
  List.takeWhile_append_dropWhile

theorem begins_of_skipBlanks (hbegins : Begins tokens (skipBlanks input).val rest) :
    Begins tokens input rest := by
  obtain ⟨front, more, hinput, hspells⟩ := hbegins
  refine ⟨input.takeWhile Unicode.isWhiteSpace ++ front, more, ?_, ?_⟩
  · rw [List.append_assoc, ← hinput, takeWhile_append_skipBlanks]
  · rw [List.append_assoc]
    exact spells_append_of_isWhiteSpace (fun blank hblank => List.mem_takeWhile_imp hblank) hspells

theorem begins_of_token? {marked : Shorter input} (htoken : token? mark input = some marked)
    (hmark : mark ∈ marks) (hbegins : Begins tokens marked.val rest) :
    Begins (.mark mark :: tokens) input rest := by
  apply begins_of_skipBlanks
  obtain ⟨front, more, hmarked, hspells⟩ := hbegins
  refine ⟨mark :: front, more, ?_, .mark hmark hspells⟩
  rw [token?_eq_some_iff.mp htoken, hmarked, List.cons_append]

theorem Covers.skipBlanks (hcovers : Covers tokens input rest) :
    Covers tokens input (Expression.skipBlanks rest).val := by
  obtain ⟨front, rfl, hspells⟩ := hcovers
  have hblank : ∀ blank ∈ rest.takeWhile Unicode.isWhiteSpace,
      Unicode.isWhiteSpace blank = true := fun blank hblank => List.mem_takeWhile_imp hblank
  have hblanks : Spells [] (rest.takeWhile Unicode.isWhiteSpace) := by
    simpa using spells_append_of_isWhiteSpace hblank .nil
  refine ⟨front ++ rest.takeWhile Unicode.isWhiteSpace, ?_, ?_⟩
  · rw [List.append_assoc, takeWhile_append_skipBlanks]
  · rw [← List.append_nil tokens]
    apply hspells.append hblanks
    intro character hcharacter
    exact isNameCharacter_of_isWhiteSpace (hblank character (List.mem_of_mem_head? hcharacter))

/-- More characters may follow a name that was read. -/
theorem exists_spells_of_name {text : String} {rest : Shorter input}
    (hname : name input = .ok (text, rest)) {more : List Char}
    (hmore : ∀ character ∈ more, isNameCharacter character = true) :
    ∃ front, input = front ++ rest.val ∧
      Spells [.name (String.ofList (text.toList ++ more))] (front ++ more) := by
  obtain ⟨characters, hne, rfl, htake, hdrop⟩ := name_eq_ok hname
  have hcharacters : ∀ character ∈ characters ++ more, isNameCharacter character = true := by
    intro character hcharacter
    rw [← htake, List.mem_append] at hcharacter
    exact hcharacter.elim List.mem_takeWhile_imp (hmore character)
  have hspells := Spells.name (List.append_ne_nil_of_left_ne_nil hne more) hcharacters
    (fun _ hnone => by cases hnone) .nil
  refine ⟨input.takeWhile Unicode.isWhiteSpace ++ characters, ?_, ?_⟩
  · rw [List.append_assoc, ← htake, ← hdrop, List.takeWhile_append_dropWhile,
      takeWhile_append_skipBlanks]
  · rw [List.append_nil] at hspells
    rw [String.toList_ofList, List.append_assoc]
    exact spells_append_of_isWhiteSpace (fun blank hblank => List.mem_takeWhile_imp hblank) hspells

theorem covers_of_name {text : String} {rest : Shorter input}
    (hname : name input = .ok (text, rest)) : Covers [.name text] input rest.val := by
  obtain ⟨front, hinput, hspells⟩ := exists_spells_of_name hname (List.forall_mem_nil _)
  rw [List.append_nil, List.append_nil, String.ofList_toList] at hspells
  exact ⟨front, hinput, hspells⟩

/-! ## Unfinished names and chains -/

/-- A name that can stand wherever one is missing. -/
def placeholder : Word := ⟨"x", by decide⟩

/-- Where a name is missing, one could follow. -/
theorem begins_of_name_eq_error {failure : Failure} (hname : name input = .error failure) :
    Begins [.name placeholder.text] input failure.rest := by
  obtain ⟨rfl, -⟩ := name_eq_error_iff.mp hname
  apply begins_of_skipBlanks
  have hspells : Spells [.name placeholder.text] ['x'] :=
    @Spells.name _ ['x'] [] (List.cons_ne_nil _ _) (List.forall_mem_singleton.mpr (by decide))
      (fun _ hnone => by cases hnone) .nil
  exact ⟨[], ['x'], rfl, hspells⟩

/-- The word for the bare link may be the beginning of a longer name. -/
theorem begins_of_bareWord {rest : Shorter input}
    (hname : name input = .ok (TagSet.bareWord, rest)) :
    ∃ word : Word, Begins [.name word.text] input rest.val := by
  obtain ⟨front, hinput, hspells⟩ :=
    exists_spells_of_name hname (List.forall_mem_singleton.mpr (by decide : isNameCharacter 'x'))
  exact ⟨⟨"anyx", by decide⟩, front, ['x'], hinput, hspells⟩

theorem begins_of_chain_eq_error {failure : Failure} (hchain : chain input = .error failure) :
    ∃ first others, Begins (chainTokens (first :: others)) input failure.rest := by
  fun_induction chain input with
  | case1 | case5 => cases hchain
  | case2 input plus htoken failure hname =>
    cases hchain
    exact ⟨placeholder, [], begins_of_token? htoken (by decide) (begins_of_name_eq_error hname)⟩
  | case3 input plus htoken afterName hname =>
    cases hchain
    obtain ⟨word, hbegins⟩ := begins_of_bareWord hname
    exact ⟨word, [], begins_of_token? htoken (by decide) hbegins⟩
  | case4 input plus htoken next afterName hname hne _ failure hothers =>
    rename_i ih
    cases hchain
    obtain ⟨first, others, hbegins⟩ := ih hothers
    exact ⟨⟨next, hne⟩, first :: others, begins_of_token? htoken (by decide)
      ((covers_of_name hname).append_begins hbegins)⟩

end Beginnings

/-! ## Unfinished constructs -/

section Readers

variable {Item : Type} {construct : Construct Item} {reader : Reader} {continuing : List Char}
  {input : List Char}

/-- What was read successfully is covered by an item: without what the reader left, the
text is that item. -/
theorem Reads.exists_covers (hreads : Reads reader continuing construct)
    (hlooks : LooksAhead reader) {shape : Shape} {rest : Shorter input}
    (hread : reader input = .ok (shape, rest)) :
    ∃ item, Covers (construct.tokens item) input rest.val := by
  obtain ⟨front, hinput⟩ := ((hlooks.moves input input .start).of_ok hread).isSuffix
  have hcarries := hlooks.carried rest.val [] (fun _ hnone => by cases hnone) input front
    ⟨front, hinput.symm, (List.append_nil front).symm⟩
  obtain ⟨rest', hread', kept, hkept, hrest'⟩ := hcarries.of_ok hread (List.suffix_refl _)
  rw [List.self_eq_append_left.mp hkept] at hrest'
  obtain ⟨item, -, -, hspells⟩ := hreads.sound _ _ _ hread'
  have hfront := hspells [] (hrest' ▸ .nil)
  rw [List.append_nil] at hfront
  exact ⟨item, front, hinput.symm, hfront⟩

/-- Where the reader gives up, not because of a limit, it has consumed the beginning of
an item. -/
def GivesUpWithin (reader : Reader) (tokens : Item → List Token) : Prop :=
  ∀ input failure, reader input = .error failure → failure.fault ∉ limitFaults →
    ∃ item, Begins (tokens item) input failure.rest

section Composition

variable {mark : Char} {weigh : Nat → Nat → Nat} (hreads : Reads reader continuing construct)
  (hlooks : LooksAhead reader) (hgives : GivesUpWithin reader construct.tokens)
  (hmark : mark ∈ marks)

include hreads hlooks hgives hmark

theorem begins_of_members_eq_error {weight : Nat} {failure : Failure}
    (hfails : members mark weigh reader weight input = .error failure)
    (hnotLimit : failure.fault ∉ limitFaults) :
    ∃ first others, Begins (construct.moreTokens mark (first :: others)) input failure.rest := by
  fun_induction members mark weigh reader weight input with
  | case1 | case5 => cases hfails
  | case2 weight input marked htoken failure hmember =>
    cases hfails
    obtain ⟨item, hbegins⟩ := hgives _ _ hmember hnotLimit
    refine ⟨item, [], ?_⟩
    rw [moreTokens_cons, Construct.moreTokens, List.flatMap_nil, List.append_nil]
    exact begins_of_token? htoken hmark hbegins
  | case3 =>
    cases hfails
    exact absurd (by simp [limitFaults]) hnotLimit
  | case4 weight input marked htoken next afterNext hnext _ hbound _ failure hothers =>
    rename_i ih
    cases hfails
    obtain ⟨item, hcovers⟩ := hreads.exists_covers hlooks hnext
    obtain ⟨first, others, hbegins⟩ := ih hothers
    refine ⟨item, first :: others, ?_⟩
    rw [moreTokens_cons] at hbegins ⊢
    rw [moreTokens_cons]
    exact begins_of_token? htoken hmark (hcovers.append_begins hbegins)

theorem GivesUpWithin.composition {Whole : Type} {whole : Construct Whole}
    {combine : Shape → List Shape → Shape} {of : Item → List Item → Whole}
    (hcomposes : Composes whole construct mark weigh combine of) :
    GivesUpWithin (composition mark weigh combine reader) whole.tokens := by
  intro input failure hfails hnotLimit
  rw [Expression.composition] at hfails
  split at hfails
  · rename_i hfirst
    cases hfails
    obtain ⟨item, hbegins⟩ := hgives _ _ hfirst hnotLimit
    refine ⟨of item [], ?_⟩
    rw [hcomposes.tokens, Construct.moreTokens, List.flatMap_nil, List.append_nil]
    exact hbegins
  · rename_i shape afterFirst hfirst
    split at hfails
    · rename_i hmembers
      cases hfails
      obtain ⟨item, hcovers⟩ := hreads.exists_covers hlooks hfirst
      obtain ⟨first, others, hbegins⟩ :=
        begins_of_members_eq_error hreads hlooks hgives hmark hmembers hnotLimit
      refine ⟨of item (first :: others), ?_⟩
      rw [hcomposes.tokens]
      rw [moreTokens_cons] at hbegins ⊢
      exact hcovers.append_begins hbegins
    · cases hfails

end Composition

theorem begins_of_linkStep_eq_error {first : String × Shorter input} {failure : Failure}
    (hname : name input = .ok first) (hfails : linkStep first = .error failure) :
    ∃ word others, Begins (Factor.chain word others).tokens input failure.rest := by
  rw [linkStep] at hfails
  split at hfails
  · cases hfails
  · rename_i hne
    cases hchain : chain first.2.val with
    | ok read =>
      rw [hchain] at hfails
      cases hfails
    | error other =>
      rw [hchain] at hfails
      cases hfails
      obtain ⟨second, others, hbegins⟩ := begins_of_chain_eq_error hchain
      refine ⟨⟨first.1, hne⟩, second :: others, ?_⟩
      rw [Factor.tokens]
      exact (covers_of_name hname).append_begins hbegins

section Factor

variable {inside : Option Reader} {depth : Nat} (hinside : ReadsInside inside depth)
  (hlooks : ∀ reader ∈ inside, LooksAhead reader)
  (hgives : ∀ reader ∈ inside, GivesUpWithin reader Phrase.tokens)

include hinside hlooks hgives

theorem givesUpWithin_factor : GivesUpWithin (factor inside) Factor.tokens := by
  intro input failure hfails hnotLimit
  cases htoken : token? '(' input with
  | none =>
    rw [factor_of_token?_eq_none htoken] at hfails
    cases hname : name input with
    | error other =>
      rw [hname] at hfails
      cases hfails
      refine ⟨.chain placeholder [], ?_⟩
      rw [Factor.tokens]
      exact begins_of_name_eq_error hname
    | ok first =>
      rw [hname] at hfails
      obtain ⟨word, others, hbegins⟩ := begins_of_linkStep_eq_error hname hfails
      exact ⟨.chain word others, hbegins⟩
  | some opened =>
    cases hinside with
    | none =>
      rw [factor, htoken] at hfails
      cases hfails
      exact absurd List.mem_cons_self hnotLimit
    | @some expression depth hreads =>
      rw [factor_of_token?_eq_some htoken] at hfails
      cases hexpression : expression opened.val with
      | error other =>
        rw [hexpression] at hfails
        cases hfails
        obtain ⟨phrase, hbegins⟩ := hgives expression rfl _ _ hexpression hnotLimit
        refine ⟨.parenthesised phrase, ?_⟩
        rw [Factor.tokens]
        exact begins_of_token? htoken (by decide) (hbegins.append_mark (by decide))
      | ok inner =>
        rw [hexpression] at hfails
        obtain ⟨phrase, hcovers⟩ := hreads.exists_covers (hlooks expression rfl) hexpression
        have hrest : failure.rest = (skipBlanks inner.2.val).val := by
          dsimp only [Except.bind, closingStep] at hfails
          split at hfails
          · cases hfails
            rfl
          · cases hfails
        refine ⟨.parenthesised phrase, ?_⟩
        rw [Factor.tokens, hrest]
        exact begins_of_token? htoken (by decide)
          (hcovers.skipBlanks.begins.append_mark (by decide))

theorem givesUpWithin_expressionWithin :
    GivesUpWithin (expressionWithin inside) Phrase.tokens :=
  have hfactor := givesUpWithin_factor hinside hlooks hgives
  have hterm := hfactor.composition hinside.factor
    (looksAhead_factor hlooks) (by decide) (composes_terms depth)
  hterm.composition hinside.term (looksAhead_term hlooks) (by decide) (composes_phrases depth)

end Factor

/-- Where reading an expression goes wrong, the text so far begins one. -/
theorem givesUpWithin_expression (depth : Nat) :
    GivesUpWithin (expression depth) Phrase.tokens := by
  induction depth with
  | zero => exact givesUpWithin_expressionWithin .none nofun nofun
  | succ depth ih =>
    refine givesUpWithin_expressionWithin (.some (reads_expression depth)) ?_ ?_
    · intro reader hreader
      cases hreader
      exact looksAhead_expression depth
    · intro reader hreader
      cases hreader
      exact ih

end Readers

/-! ## Whole texts -/

section Texts

variable {input : List Char} {failure : Failure}

/-- Up to a syntax fault, the text is the beginning of some phrase. -/
theorem exists_begins_of_shape_eq_error (hfails : Expression.shape input = .error failure)
    (hnotLimit : failure.fault ∉ limitFaults) :
    ∃ phrase : Phrase, Begins phrase.tokens input failure.rest := by
  rw [Expression.shape] at hfails
  split at hfails
  · rename_i hexpression
    cases hfails
    exact givesUpWithin_expression maximalNesting input failure hexpression hnotLimit
  · rename_i read rest hexpression
    split at hfails
    · cases hfails
    · rename_i left hleft
      cases hfails
      obtain ⟨phrase, hcovers⟩ := (reads_expression maximalNesting).exists_covers
        (looksAhead_expression maximalNesting) hexpression
      exact ⟨phrase, hcovers.skipBlanks.begins⟩

/-- A text is refused for the same reason if everything after the first character left
over is exchanged. -/
theorem exists_shape_eq_error_of_replaced {old new input' : List Char}
    (hstart : ∀ character ∈ new.head?, character ∈ old.head?) (hnew : new ≠ [])
    (hreplaced : Replaced old new input input') (hfails : Expression.shape input = .error failure)
    (hleft : old <:+ failure.rest) :
    ∃ rest, Expression.shape input' = .error ⟨failure.fault, rest⟩ := by
  have hcarried := (looksAhead_expression maximalNesting).carried old new hstart input input'
    hreplaced
  rw [Expression.shape] at hfails
  split at hfails
  · rename_i hexpression
    cases hfails
    obtain ⟨rest, hexpression', -⟩ := hcarried.of_error hexpression hleft
    exact ⟨rest, by rw [Expression.shape, hexpression']⟩
  · rename_i read rest hexpression
    split at hfails
    · cases hfails
    · rename_i left hblanks
      cases hfails
      obtain ⟨rest', hexpression', hrest⟩ := hcarried.of_ok hexpression
        (hleft.trans (List.dropWhile_suffix _))
      obtain ⟨kept, -, hkept⟩ := hrest.skipBlanks hstart hleft
      obtain ⟨first, others, hcons⟩ :=
        List.exists_cons_of_ne_nil (List.append_ne_nil_of_right_ne_nil kept hnew)
      refine ⟨first :: others, ?_⟩
      rw [Expression.shape, hexpression']
      dsimp only
      rw [hkept, hcons]

/-- No expression is refused for a syntax fault. -/
theorem Spells.fault_mem_limitFaults {phrase : Phrase} (hspells : Spells phrase.tokens input)
    (hfails : Expression.shape input = .error failure) : failure.fault ∈ limitFaults := by
  have hfits : ¬ (phrases maximalNesting).Fits phrase := by
    intro hfits
    rw [shape_eq_ok_of_fits hfits hspells] at hfails
    cases hfails
  obtain ⟨other, hother, hlimit⟩ := shape_eq_error_of_not_fits hfits hspells
  rw [hother] at hfails
  cases hfails
  exact hlimit

end Texts

end Expression

open Expression

/-- The characters can be continued to a connection expression, whatever its nesting and
its number of alternatives. -/
def IsBeginning (front : List Char) : Prop :=
  ∃ more, ∃ phrase : Phrase, Spells phrase.tokens (front ++ more)

def syntaxFaults : List SyntaxFault :=
  [.expectedName, .expectedClosing, .trailingInput, .bareWordInChain]

theorem syntaxFaults_not_limitFaults : ∀ fault ∈ syntaxFaults, fault ∉ limitFaults := by decide

/-- A syntax fault is reported at the first offending character: the offset is a
boundary between characters, what stands before it is the beginning of an expression,
and with the character at the offset it is not, unless the offset is the end of the
text. -/
theorem parse_pointsAtFirstOffence {text expression : String} {offset : Nat}
    {fault : SyntaxFault} (hfault : fault ∈ syntaxFaults)
    (hparse : Connection.parse text = .error (.malformed expression offset fault)) :
    String.Pos.Raw.IsValid text ⟨offset⟩ ∧
      ∃ before rest, text.toList = before ++ rest ∧ byteLength before = offset ∧
        IsBeginning before ∧
        (rest = [] ∨ ∃ offending after, rest = offending :: after ∧
          ¬ IsBeginning (before ++ [offending])) := by
  have hnotLimit : fault ∉ limitFaults := syntaxFaults_not_limitFaults fault hfault
  rw [Connection.parse] at hparse
  split at hparse
  · cases hparse
  · rename_i failure hfails
    cases hparse
    obtain ⟨phrase, before, more, htext, hspells⟩ :=
      exists_begins_of_shape_eq_error hfails hnotLimit
    refine ⟨isValid_of_isSuffix ⟨before, htext.symm⟩, before, failure.rest, htext, ?_,
      ⟨more, phrase, hspells⟩, ?_⟩
    · rw [htext, byteLength_append, Nat.add_sub_cancel]
    cases hrest : failure.rest with
    | nil => exact Or.inl rfl
    | cons offending after =>
      refine Or.inr ⟨offending, after, rfl, ?_⟩
      intro hbeginning
      obtain ⟨more, phrase, hspells⟩ := hbeginning
      rw [List.append_assoc, List.singleton_append] at hspells
      have hstart : ∀ character ∈ (offending :: more).head?,
          character ∈ (offending :: after).head? := fun _ hcharacter => hcharacter
      obtain ⟨rest, hfails'⟩ := exists_shape_eq_error_of_replaced hstart
        (List.cons_ne_nil offending more) ⟨before, hrest ▸ htext, rfl⟩ hfails
        (hrest ▸ List.suffix_refl _)
      have hlimit := hspells.fault_mem_limitFaults hfails'
      exact hnotLimit hlimit

/-- A parenthesis stands where a name is missing, after a name of two bytes. -/
theorem parse_pointsAtFirstOffence_missingName :
    Connection.parse "ü | )" = .error (.malformed "ü | )" 5 .expectedName) ∧
      String.Pos.Raw.IsValid "ü | )" ⟨5⟩ ∧
      ∃ before rest, "ü | )".toList = before ++ rest ∧ byteLength before = 5 ∧
        IsBeginning before ∧
        (rest = [] ∨ ∃ offending after, rest = offending :: after ∧
          ¬ IsBeginning (before ++ [offending])) := by
  have hread : (Connection.parse "ü | )").map (fun _ => ()) =
      .error (.malformed "ü | )" 5 .expectedName) := by decide +kernel
  have hparse := parse_eq_error_of_map hread
  exact ⟨hparse, parse_pointsAtFirstOffence (by decide) hparse⟩

end LabMatch
