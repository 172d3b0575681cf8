import LabMatch.Proofs.Connection.Tokens

/-!
# Positions in connection expressions

Readers move only over white space, marks and names.  Wherever they are led by them,
and wherever they give up, is a suffix of the text, so its distance from the start in
bytes never falls between the bytes of a character.
-/

namespace LabMatch.Expression

/-- What may be left of the text when a reader moves over tokens. -/
inductive Position (text : List Char) : List Char → Prop
  | start : Position text text
  | blanks {input : List Char} (hinput : Position text input) :
      Position text (skipBlanks input).val
  | mark {input : List Char} {expected : Char} {rest : Shorter input}
      (hinput : Position text input) (htoken : token? expected input = some rest) :
      Position text rest.val
  | name {input : List Char} {word : String} {rest : Shorter input}
      (hinput : Position text input) (hname : name input = .ok (word, rest)) :
      Position text rest.val

theorem Position.isSuffix {text rest : List Char} (hposition : Position text rest) :
    rest <:+ text := by
  induction hposition with
  | start => exact List.suffix_refl text
  | blanks hinput ih => exact (List.dropWhile_suffix _).trans ih
  | @mark input expected rest hinput htoken ih =>
    have hrest : rest.val <:+ (skipBlanks input).val :=
      token?_eq_some_iff.mp htoken ▸ List.suffix_cons expected rest.val
    exact (hrest.trans (List.dropWhile_suffix _)).trans ih
  | @name input word rest hinput hname ih =>
    obtain ⟨characters, hne, hword, htake, hdrop⟩ := name_eq_ok hname
    have hrest : rest.val <:+ (skipBlanks input).val := hdrop ▸ List.dropWhile_suffix _
    exact (hrest.trans (List.dropWhile_suffix _)).trans ih

/-! ## Offsets -/

theorem foldl_utf8Size (characters : List Char) (start : Nat) :
    characters.foldl (fun length character => length + character.utf8Size) start =
      start + byteLength characters := by
  induction characters generalizing start with
  | nil => rfl
  | cons first others ih =>
    rw [byteLength, List.foldl_cons, List.foldl_cons, ih, ih (0 + first.utf8Size), Nat.zero_add,
      Nat.add_assoc]

theorem byteLength_append (first second : List Char) :
    byteLength (first ++ second) = byteLength first + byteLength second := by
  rw [byteLength, List.foldl_append, foldl_utf8Size]
  rfl

/-- Characters are counted by the bytes of the text that they make. -/
theorem byteLength_eq_utf8ByteSize (characters : List Char) :
    byteLength characters = (String.ofList characters).utf8ByteSize := by
  induction characters with
  | nil => rfl
  | cons first others ih =>
    rw [← List.singleton_append, byteLength_append, String.ofList_append,
      String.utf8ByteSize_append, ih, ← String.singleton_eq_ofList, String.utf8ByteSize_singleton]
    exact congrArg (· + _) (Nat.zero_add first.utf8Size)

/-- The offset of a suffix is a boundary between characters. -/
theorem isValid_of_isSuffix {text : String} {rest : List Char} (hrest : rest <:+ text.toList) :
    String.Pos.Raw.IsValid text ⟨byteLength text.toList - byteLength rest⟩ := by
  obtain ⟨before, hbefore⟩ := hrest
  rw [String.Pos.Raw.isValid_iff_exists_take_toList, ← hbefore]
  refine ⟨before.length, ?_⟩
  rw [byteLength_append, List.take_left, ← byteLength_eq_utf8ByteSize]
  exact Nat.add_sub_cancel _ _

/-! ## Readers -/

/-- Where a reader leaves off, or gives up, is a position in the text. -/
def EndsIn (text : List Char) {Value : Type} {bound : List Char → Prop} :
    Except Failure (Value × Subtype bound) → Prop
  | .error failure => Position text failure.rest
  | .ok (_, rest) => Position text rest.val

variable {text input : List Char}

section Ends

variable {Value : Type} {bound : List Char → Prop}
  {outcome : Except Failure (Value × Subtype bound)}

theorem EndsIn.of_error {failure : Failure} (hends : EndsIn text outcome)
    (herror : outcome = .error failure) : Position text failure.rest := by
  subst herror
  exact hends

theorem EndsIn.of_ok {value : Value} {rest : Subtype bound} (hends : EndsIn text outcome)
    (hok : outcome = .ok (value, rest)) : Position text rest.val := by
  subst hok
  exact hends

end Ends

theorem endsIn_name (hinput : Position text input) : EndsIn text (name input) := by
  cases hname : name input with
  | ok read => exact hinput.name hname
  | error failure =>
    rw [name] at hname
    split at hname
    · cases hname
      exact hinput.blanks
    · cases hname

theorem endsIn_chain (hinput : Position text input) : EndsIn text (chain input) := by
  fun_induction chain input with
  | case1 input htoken => exact hinput.blanks
  | case2 input plus htoken failure hname => exact (endsIn_name (hinput.mark htoken)).of_error hname
  | case3 input plus htoken afterName hname => exact (hinput.mark htoken).name hname
  | case4 input plus htoken next afterName hname hne _ failure hothers =>
    rename_i ih
    exact (ih ((hinput.mark htoken).name hname)).of_error hothers
  | case5 input plus htoken next afterName hname hne _ others rest hothers =>
    rename_i ih
    exact (ih ((hinput.mark htoken).name hname)).of_ok hothers

/-- The reader moves only over tokens. -/
def Moves (text : List Char) (reader : Reader) : Prop :=
  ∀ input, Position text input → EndsIn text (reader input)

/-- A factor is read over tokens only, if this holds of what stands in parentheses. -/
theorem moves_factor {inside : Option Reader} (hinside : ∀ reader ∈ inside, Moves text reader) :
    Moves text (factor inside) := by
  intro input hinput
  rw [factor]
  split
  · rename_i opened htoken
    have hopened := hinput.mark htoken
    split
    · exact hopened
    · rename_i expression
      have hends := hinside expression rfl opened.val hopened
      split
      · rename_i failure hfails
        exact hends.of_error hfails
      · rename_i shape afterShape hshape
        split
        · exact (hends.of_ok hshape).blanks
        · rename_i closed hclosed
          exact (hends.of_ok hshape).mark hclosed
  · have hends := endsIn_name hinput
    split
    · rename_i failure hfails
      exact hends.of_error hfails
    · rename_i first afterName hname
      have hothers := endsIn_chain (hends.of_ok hname)
      split
      · exact hends.of_ok hname
      · split
        · rename_i failure hfails
          exact hothers.of_error hfails
        · rename_i others rest hrest
          exact hothers.of_ok hrest

section Composition

variable {mark : Char} {weigh : Nat → Nat → Nat} {member : Reader}

theorem endsIn_members (hmember : Moves text member) {weight : Nat}
    (hinput : Position text input) :
    EndsIn text (members mark weigh member weight input) := by
  fun_induction members mark weigh member weight input with
  | case1 weight input htoken => exact hinput.blanks
  | case2 weight input marked htoken failure hfails =>
    exact (hmember marked.val (hinput.mark htoken)).of_error hfails
  | case3 weight input marked htoken next afterNext hnext _ hbound =>
    exact (hmember marked.val (hinput.mark htoken)).of_ok hnext
  | case4 weight input marked htoken next afterNext hnext _ hbound _ failure hothers =>
    rename_i ih
    exact (ih ((hmember marked.val (hinput.mark htoken)).of_ok hnext)).of_error hothers
  | case5 weight input marked htoken next afterNext hnext _ hbound _ others rest hothers =>
    rename_i ih
    exact (ih ((hmember marked.val (hinput.mark htoken)).of_ok hnext)).of_ok hothers

theorem moves_composition {combine : Shape → List Shape → Shape} (hmember : Moves text member) :
    Moves text (composition mark weigh combine member) := by
  intro input hinput
  have hends := hmember input hinput
  rw [composition]
  split
  · rename_i failure hfails
    exact hends.of_error hfails
  · rename_i first afterFirst hfirst
    split
    · rename_i failure hfails
      exact (endsIn_members hmember (hends.of_ok hfirst)).of_error hfails
    · rename_i others rest hrest
      exact (endsIn_members hmember (hends.of_ok hfirst)).of_ok hrest

end Composition

/-- Expressions are read over tokens only, at any depth. -/
theorem moves_expression (depth : Nat) : Moves text (expression depth) := by
  induction depth with
  | zero => exact moves_composition (moves_composition (moves_factor nofun))
  | succ depth ih =>
    apply moves_composition (moves_composition (moves_factor _))
    intro reader hreader
    cases hreader
    exact ih

end LabMatch.Expression
