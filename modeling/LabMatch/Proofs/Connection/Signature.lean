import LabMatch.Connection.Expression
import LabMatch.Proofs.Connection.Offer

/-!
# Signatures tell alternatives apart

The signature of a connection is a text, and texts can run together: a tag with
a `+` in it reads like two tags, one with a `|` in it like two alternatives, and
the word for the bare set like no tag at all.  Between connections without such
tags, equal signatures mean equal alternatives.  The tags that can be written in a
connection expression are of this kind.
-/

namespace LabMatch

/-- The tags that a connection expression can produce. -/
structure IsTag (tag : String) : Prop where
  nonempty : tag ≠ ""
  noBareWord : tag ≠ TagSet.bareWord
  characters : ∀ character ∈ tag.toList, Expression.isNameCharacter character = true

mutual

def Shape.tags : Shape → List String
  | .link tags => tags.tags
  | .every first second others => first.tags ++ second.tags ++ Shape.pooledTags others
  | .either first second others => first.tags ++ second.tags ++ Shape.pooledTags others

def Shape.pooledTags : List Shape → List String
  | [] => []
  | first :: others => first.tags ++ Shape.pooledTags others

end

def Connection.Legible (connection : Connection) : Prop :=
  ∀ tag ∈ connection.shape.tags, IsTag tag

/-- The tag reads neither like several tags, nor like several alternatives, nor like the
bare set. -/
structure IsSeparable (tag : String) : Prop where
  noPlus : '+' ∉ tag.toList
  noBar : '|' ∉ tag.toList
  noBareWord : tag ≠ TagSet.bareWord

/-- No tag of the connection can be mistaken in its signature. -/
def Connection.Separable (connection : Connection) : Prop :=
  ∀ tag ∈ connection.shape.tags, IsSeparable tag

theorem IsTag.notMem {tag : String} (htag : IsTag tag) {character : Char}
    (hcharacter : Expression.isNameCharacter character = false) : character ∉ tag.toList := by
  intro hmem
  simp [htag.characters character hmem] at hcharacter

/-- Tags that an expression can produce cannot be mistaken. -/
theorem IsTag.isSeparable {tag : String} (htag : IsTag tag) : IsSeparable tag :=
  ⟨htag.notMem (by decide), htag.notMem (by decide), htag.noBareWord⟩

/-- What can be written as an expression has a reliable signature. -/
theorem Connection.Legible.separable {connection : Connection} (hlegible : connection.Legible) :
    connection.Separable :=
  fun tag htag => (hlegible tag htag).isSeparable

theorem mem_tags_of_mem_crossUnion {mine theirs : List TagSet} {tags : TagSet} {tag : String}
    (hmem : tags ∈ crossUnion mine theirs) (htag : tag ∈ tags.tags) :
    (∃ left ∈ mine, tag ∈ left.tags) ∨ ∃ right ∈ theirs, tag ∈ right.tags := by
  obtain ⟨left, hleft, right, hright, rfl⟩ := mem_crossUnion.mp hmem
  cases TagSet.mem_tags_union.mp htag with
  | inl hmine => exact Or.inl ⟨left, hleft, hmine⟩
  | inr htheirs => exact Or.inr ⟨right, hright, htheirs⟩

mutual

/-- Flattening a shape makes up no tags. -/
theorem Shape.mem_tags_of_mem_alternatives : (shape : Shape) → {tags : TagSet} →
    {tag : String} → tags ∈ shape.alternatives → tag ∈ tags.tags → tag ∈ shape.tags
  | .link own, _, _, hmem, htag => by
    rw [Shape.alternatives, List.mem_singleton] at hmem
    rwa [Shape.tags, ← hmem]
  | .every first second others, _, _, hmem, htag => by
    rw [Shape.alternatives] at hmem
    rw [Shape.tags, List.mem_append, List.mem_append]
    cases mem_tags_of_mem_crossAlternatives others hmem htag with
    | inr hothers => exact Or.inr hothers
    | inl hgathered =>
      obtain ⟨tags, hmem, htag⟩ := hgathered
      apply Or.inl
      cases mem_tags_of_mem_crossUnion hmem htag with
      | inr hsecond =>
        obtain ⟨tags, hmem, htag⟩ := hsecond
        exact Or.inr (second.mem_tags_of_mem_alternatives hmem htag)
      | inl hbare =>
        obtain ⟨tags, hmem, htag⟩ := hbare
        cases mem_tags_of_mem_crossUnion hmem htag with
        | inl hbare => simp at hbare
        | inr hfirst =>
          obtain ⟨tags, hmem, htag⟩ := hfirst
          exact Or.inl (first.mem_tags_of_mem_alternatives hmem htag)
  | .either first second others, _, _, hmem, htag => by
    rw [Shape.alternatives, Ascending.mem_ofList, List.mem_append, List.mem_append] at hmem
    rw [Shape.tags, List.mem_append, List.mem_append, or_assoc]
    exact hmem.imp (fun hfirst => first.mem_tags_of_mem_alternatives hfirst htag)
      (Or.imp (fun hsecond => second.mem_tags_of_mem_alternatives hsecond htag)
        fun hothers => mem_tags_of_mem_pooledAlternatives others hothers htag)

private theorem mem_tags_of_mem_pooledAlternatives : (shapes : List Shape) → {tags : TagSet} →
    {tag : String} → tags ∈ pooledAlternatives shapes → tag ∈ tags.tags →
    tag ∈ Shape.pooledTags shapes
  | [], _, _, hmem, _ => by simp [pooledAlternatives] at hmem
  | first :: others, _, _, hmem, htag => by
    rw [pooledAlternatives, List.mem_append] at hmem
    rw [Shape.pooledTags, List.mem_append]
    exact hmem.imp (fun hfirst => first.mem_tags_of_mem_alternatives hfirst htag)
      fun hothers => mem_tags_of_mem_pooledAlternatives others hothers htag

private theorem mem_tags_of_mem_crossAlternatives : (shapes : List Shape) →
    {gathered : List TagSet} → {tags : TagSet} → {tag : String} →
    tags ∈ crossAlternatives gathered shapes → tag ∈ tags.tags →
    (∃ tags ∈ gathered, tag ∈ tags.tags) ∨ tag ∈ Shape.pooledTags shapes
  | [], _, tags, _, hmem, htag => Or.inl ⟨tags, by rwa [crossAlternatives] at hmem, htag⟩
  | first :: others, _, _, _, hmem, htag => by
    rw [crossAlternatives] at hmem
    rw [Shape.pooledTags, List.mem_append]
    cases mem_tags_of_mem_crossAlternatives others hmem htag with
    | inr hothers => exact Or.inr (Or.inr hothers)
    | inl hcrossed =>
      obtain ⟨tags, hmem, htag⟩ := hcrossed
      apply (mem_tags_of_mem_crossUnion hmem htag).imp_right
      intro hfirst
      obtain ⟨tags, hmem, htag⟩ := hfirst
      exact Or.inl (first.mem_tags_of_mem_alternatives hmem htag)

end

/-! ## Joined texts -/

private theorem append_cons_injective {separator : Char} {text other tail tail' : List Char}
    (htext : separator ∉ text) (hother : separator ∉ other)
    (hsame : text ++ separator :: tail = other ++ separator :: tail') :
    text = other ∧ tail = tail' := by
  induction text generalizing other with
  | nil =>
    cases other with
    | nil => exact ⟨rfl, (List.cons.inj hsame).2⟩
    | cons first rest => exact absurd (List.cons.inj hsame).1 (List.ne_of_not_mem_cons hother)
  | cons first rest ih =>
    cases other with
    | nil => exact absurd (List.cons.inj hsame).1.symm (List.ne_of_not_mem_cons htext)
    | cons first' rest' =>
      obtain ⟨hfirst, hrest⟩ := List.cons.inj hsame
      obtain ⟨htexts, htails⟩ := ih (List.not_mem_of_not_mem_cons htext)
        (List.not_mem_of_not_mem_cons hother) hrest
      exact ⟨by rw [hfirst, htexts], htails⟩

/-- Texts joined by a separator can be told apart again when a character of the separator
occurs in none of them, and in the separator not before its place there. -/
theorem eq_of_intercalate_eq {before after : List Char} {mark : Char}
    {texts others : List (List Char)} (hbefore : mark ∉ before)
    (htexts : ∀ text ∈ texts, mark ∉ text) (hothers : ∀ text ∈ others, mark ∉ text)
    (hne : texts ≠ []) (hne' : others ≠ [])
    (hjoined : (before ++ mark :: after).intercalate texts =
      (before ++ mark :: after).intercalate others) :
    texts = others := by
  have hpadded : ∀ {text : List Char}, mark ∉ text → mark ∉ text ++ before := by
    intro text htext hmem
    exact (List.mem_append.mp hmem).elim htext hbefore
  induction texts generalizing others with
  | nil => exact absurd rfl hne
  | cons first more ih =>
    cases others with
    | nil => exact absurd rfl hne'
    | cons first' more' =>
      have hfirst := htexts first List.mem_cons_self
      have hfirst' := hothers first' List.mem_cons_self
      by_cases hmore : more = []
      · by_cases hmore' : more' = []
        · subst hmore hmore'
          simpa using hjoined
        · rw [hmore, List.intercalate_singleton, List.intercalate_cons_of_ne_nil hmore'] at hjoined
          exact absurd (by simp [hjoined]) hfirst
      · by_cases hmore' : more' = []
        · rw [hmore', List.intercalate_singleton, List.intercalate_cons_of_ne_nil hmore] at hjoined
          exact absurd (by simp [← hjoined]) hfirst'
        · rw [List.intercalate_cons_of_ne_nil hmore, List.intercalate_cons_of_ne_nil hmore',
            ← List.append_assoc, ← List.append_assoc, List.append_assoc (_ ++ before),
            List.append_assoc (_ ++ before), List.cons_append, List.cons_append] at hjoined
          obtain ⟨hsame, htails⟩ :=
            append_cons_injective (hpadded hfirst) (hpadded hfirst') hjoined
          rw [List.append_cancel_right hsame,
            ih (fun text hmem => htexts text (List.mem_cons_of_mem first hmem))
              (fun text hmem => hothers text (List.mem_cons_of_mem first' hmem)) hmore hmore'
              (List.append_cancel_left htails)]

private theorem mem_intercalate {separator : List Char} {texts : List (List Char)}
    {character : Char} (hmem : character ∈ separator.intercalate texts) :
    character ∈ separator ∨ ∃ text ∈ texts, character ∈ text := by
  induction texts with
  | nil => simp at hmem
  | cons first others ih =>
    by_cases hothers : others = []
    · subst hothers
      rw [List.intercalate_singleton] at hmem
      exact Or.inr ⟨first, List.mem_cons_self, hmem⟩
    · rw [List.intercalate_cons_of_ne_nil hothers, List.append_assoc, List.mem_append,
        List.mem_append] at hmem
      rcases hmem with hfirst | hseparator | hrest
      · exact Or.inr ⟨first, List.mem_cons_self, hfirst⟩
      · exact Or.inl hseparator
      · apply (ih hrest).imp_right
        intro hfound
        obtain ⟨text, htext, hcharacter⟩ := hfound
        exact ⟨text, List.mem_cons_of_mem first htext, hcharacter⟩

/-- Texts without the mark of the separator are determined by their join. -/
theorem eq_of_text_intercalate_eq {separator : String} {before after : List Char} {mark : Char}
    {texts others : List String} (hseparator : separator.toList = before ++ mark :: after)
    (hbefore : mark ∉ before) (htexts : ∀ text ∈ texts, mark ∉ text.toList)
    (hothers : ∀ text ∈ others, mark ∉ text.toList) (hne : texts ≠ []) (hne' : others ≠ [])
    (hjoined : separator.intercalate texts = separator.intercalate others) :
    texts = others := by
  have hlists := congrArg String.toList hjoined
  rw [String.toList_intercalate, String.toList_intercalate, hseparator] at hlists
  apply List.map_injective_iff.mpr fun left right => String.toList_injective
  apply eq_of_intercalate_eq hbefore _ _ _ _ hlists
  · simpa using htexts
  · simpa using hothers
  · simpa using hne
  · simpa using hne'

private theorem plus_toList : "+".toList = [] ++ '+' :: [] := rfl

private theorem bar_toList : " | ".toList = [' '] ++ '|' :: [' '] := rfl

namespace TagSet

variable {set other : TagSet}

theorem bar_notMem_text (htags : ∀ tag ∈ set.tags, IsSeparable tag) : '|' ∉ set.text.toList := by
  rw [text]
  by_cases hbare : set.isBare
  · rw [if_pos hbare]
    decide
  · rw [if_neg hbare, String.toList_intercalate]
    intro hmem
    cases mem_intercalate hmem with
    | inl hseparator => exact absurd hseparator (by decide)
    | inr hfound =>
      obtain ⟨_, htext, hbar⟩ := hfound
      obtain ⟨tag, htag, rfl⟩ := List.mem_map.mp htext
      exact (htags tag htag).noBar hbar

/-- A join of tags is never the word for the bare set. -/
theorem intercalate_ne_bareWord (htags : ∀ tag ∈ set.tags, IsSeparable tag) :
    "+".intercalate set.tags ≠ bareWord := by
  intro hsame
  cases hset : set.tags with
  | nil =>
    rw [hset, String.intercalate_nil] at hsame
    exact absurd hsame (by decide)
  | cons first others =>
    -- A text without `+` is a join of one text only.
    have hone : set.tags = [bareWord] := by
      apply eq_of_text_intercalate_eq plus_toList List.not_mem_nil
      · intro tag htag
        exact (htags tag htag).noPlus
      · decide
      · simp [hset]
      · simp
      · rw [hsame, String.intercalate_singleton]
    exact (htags bareWord (by simp [hone])).noBareWord rfl

/-- Sets of separable tags are determined by their text. -/
theorem eq_of_text_eq (hset : ∀ tag ∈ set.tags, IsSeparable tag)
    (hother : ∀ tag ∈ other.tags, IsSeparable tag) (htext : set.text = other.text) :
    set = other := by
  rw [text, text] at htext
  by_cases hbare : set.isBare
  · by_cases hbare' : other.isBare
    · apply ext
      rw [List.isEmpty_iff.mp hbare, List.isEmpty_iff.mp hbare']
    · rw [if_pos hbare, if_neg hbare'] at htext
      exact absurd htext.symm (intercalate_ne_bareWord hother)
  · by_cases hbare' : other.isBare
    · rw [if_neg hbare, if_pos hbare'] at htext
      exact absurd htext (intercalate_ne_bareWord hset)
    · rw [if_neg hbare, if_neg hbare'] at htext
      apply ext
      apply eq_of_text_intercalate_eq plus_toList List.not_mem_nil _ _ _ _ htext
      · intro tag htag
        exact (hset tag htag).noPlus
      · intro tag htag
        exact (hother tag htag).noPlus
      · exact fun hempty => hbare (List.isEmpty_iff.mpr hempty)
      · exact fun hempty => hbare' (List.isEmpty_iff.mpr hempty)

/-- Tag sets can be told apart by their texts, as long as their tags are separable. -/
theorem eq_of_map_text_eq {sets others : List TagSet}
    (hsets : ∀ set ∈ sets, ∀ tag ∈ set.tags, IsSeparable tag)
    (hothers : ∀ set ∈ others, ∀ tag ∈ set.tags, IsSeparable tag)
    (htexts : sets.map text = others.map text) : sets = others := by
  induction sets generalizing others with
  | nil => simpa using htexts.symm
  | cons first rest ih =>
    cases others with
    | nil => simp at htexts
    | cons first' rest' =>
      obtain ⟨hfirst, hrest⟩ := List.cons.inj htexts
      rw [eq_of_text_eq (hsets first List.mem_cons_self) (hothers first' List.mem_cons_self) hfirst,
        ih (fun set hset => hsets set (List.mem_cons_of_mem first hset))
          (fun set hset => hothers set (List.mem_cons_of_mem first' hset)) hrest]

end TagSet

/-- Separable connections with one signature have the same alternatives. -/
theorem Connection.alternatives_eq_of_signature_eq {connection other : Connection}
    (hseparable : connection.Separable) (hother : other.Separable)
    (hsignature : connection.signature = other.signature) :
    connection.alternatives = other.alternatives := by
  have hwritten : ∀ {connection : Connection}, connection.Separable →
      ∀ tags ∈ connection.alternatives, ∀ tag ∈ tags.tags, IsSeparable tag := by
    intro connection hseparable tags htags tag htag
    exact hseparable tag (Shape.mem_tags_of_mem_alternatives _ htags htag)
  have htexts : connection.alternatives.map TagSet.text = other.alternatives.map TagSet.text := by
    apply eq_of_text_intercalate_eq bar_toList (by decide) _ _ _ _ hsignature
    · intro text htext
      obtain ⟨tags, htags, rfl⟩ := List.mem_map.mp htext
      exact TagSet.bar_notMem_text (hwritten hseparable tags htags)
    · intro text htext
      obtain ⟨tags, htags, rfl⟩ := List.mem_map.mp htext
      exact TagSet.bar_notMem_text (hwritten hother tags htags)
    · simpa using connection.alternatives_ne_nil
    · simpa using other.alternatives_ne_nil
  exact TagSet.eq_of_map_text_eq (hwritten hseparable) (hwritten hother) htexts

end LabMatch
