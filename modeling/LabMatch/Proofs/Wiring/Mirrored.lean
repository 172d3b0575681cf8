import LabMatch.Proofs.Wiring.Lookup
import Mathlib.Data.List.Basic

/-!
# Mirrored wirings

In a wiring made of declared links both ends of a link store it, in step, and
nothing is linked to its own device.  Every link is anchored at the two endpoints
that it is stored under: from the one to the other, except for the far copy of a
one-way link.  Connecting, expanding, renaming and filtering keep a wiring
mirrored.
-/

namespace LabMatch

/-- The link is anchored at the two endpoints, in this direction unless it is
one-way. -/
def Connection.AnchoredAt (link : Connection) (span : Span) : Prop :=
  ∃ anchor, link.anchor = some anchor ∧
    (anchor.toSpan = span ∨ (anchor.oneWay = true ∧ anchor.toSpan = span.flip))

namespace Wiring

/-- Both ends of every link store it, anchored at the two of them.  They may be nodes of one
device. -/
structure IsBalanced (wiring : Wiring) : Prop where
  mirrored : ∀ span, wiring.get span.flip = (wiring.get span).map Connection.farCopy
  anchored : ∀ span, ∀ link ∈ wiring.get span, link.AnchoredAt span

/-- Both ends of every link store it, and it joins two devices. -/
structure IsMirrored (wiring : Wiring) : Prop where
  mirrored : ∀ span, wiring.get span.flip = (wiring.get span).map Connection.farCopy
  anchored : ∀ span, ∀ link ∈ wiring.get span, link.AnchoredAt span
  distinct : ∀ span, wiring.get span ≠ [] → span.source.device ≠ span.target.device

end Wiring

namespace Connection

variable {connection : Connection} {span : Span}

theorem AnchoredAt.farCopy (hanchored : connection.AnchoredAt span) :
    connection.farCopy.AnchoredAt span.flip := by
  obtain ⟨anchor, hanchor, hends⟩ := hanchored
  by_cases honeWay : anchor.oneWay
  · refine ⟨anchor, by simp [Connection.farCopy, hanchor, honeWay], ?_⟩
    exact hends.symm.imp (fun hflip => hflip.2) fun hspan => ⟨honeWay, by simp [hspan]⟩
  · refine ⟨anchor.flip, by simp [Connection.farCopy, hanchor, honeWay, flip], Or.inl ?_⟩
    cases hends with
    | inl hspan => rw [← hspan]; rfl
    | inr hflip => exact absurd hflip.1 honeWay

theorem anchoredAt_attachedAt (connection : Connection) (source target : Endpoint) :
    (connection.attachedAt source target).AnchoredAt ⟨source, target⟩ :=
  ⟨_, rfl, Or.inl rfl⟩

theorem AnchoredAt.of_anchor_eq {link : Connection} (hanchored : connection.AnchoredAt span)
    (hsame : link.anchor = connection.anchor) : link.AnchoredAt span := by
  obtain ⟨anchor, hanchor, hends⟩ := hanchored
  exact ⟨anchor, hsame.trans hanchor, hends⟩

theorem anchor_of_mem_links {link : Connection} (hlink : link ∈ connection.links) :
    link.anchor = connection.anchor := by
  obtain ⟨tags, -, rfl⟩ := List.mem_map.mp hlink
  rfl

end Connection

theorem Span.flip_ne_of_devices_ne {span : Span}
    (hdevices : span.source.device ≠ span.target.device) : span.flip ≠ span := by
  intro hflip
  exact hdevices (congrArg (fun span => span.target.device) hflip)

namespace Wiring

variable {wiring : Wiring}

theorem IsMirrored.isBalanced (hmirrored : wiring.IsMirrored) : wiring.IsBalanced :=
  ⟨hmirrored.mirrored, hmirrored.anchored⟩

theorem IsMirrored.flip_ne (hmirrored : wiring.IsMirrored) {span : Span}
    (hne : wiring.get span ≠ []) : span.flip ≠ span :=
  Span.flip_ne_of_devices_ne (hmirrored.distinct span hne)

/-- What is linked from one end is linked from the other end. -/
theorem IsBalanced.get_flip_ne_nil (hbalanced : wiring.IsBalanced) {span : Span}
    (hne : wiring.get span ≠ []) : wiring.get span.flip ≠ [] := by
  rw [hbalanced.mirrored]
  simpa using hne

theorem IsMirrored.get_flip_ne_nil (hmirrored : wiring.IsMirrored) {span : Span}
    (hne : wiring.get span ≠ []) : wiring.get span.flip ≠ [] :=
  hmirrored.isBalanced.get_flip_ne_nil hne

theorem isBalanced_empty : empty.IsBalanced where
  mirrored _ := rfl
  anchored _ _ hlink := by cases hlink

theorem isMirrored_empty : empty.IsMirrored where
  mirrored := isBalanced_empty.mirrored
  anchored := isBalanced_empty.anchored
  distinct _ hne := absurd rfl hne

/-- Connecting two endpoints keeps both ends in step. -/
theorem IsBalanced.connect (hbalanced : wiring.IsBalanced) {span : Span}
    (hspan : span.flip ≠ span) (connection : Connection) :
    (wiring.connect span connection).IsBalanced := by
  have hget := fun other => wiring.get_connect hspan other connection
  constructor
  · intro other
    rw [hget, hget]
    by_cases hsame : other = span
    · subst hsame
      rw [if_neg hspan, if_pos rfl, if_pos rfl, hbalanced.mirrored]
      simp
    · by_cases hflip : other = span.flip
      · subst hflip
        rw [if_pos (Span.flip_flip span), if_neg hspan, if_pos rfl, hbalanced.mirrored]
        simp
      · have hflip' : other.flip ≠ span := fun h => hflip (by rw [← h, Span.flip_flip])
        have hsame' : other.flip ≠ span.flip := fun h => hsame (by
          rw [← Span.flip_flip other, h, Span.flip_flip])
        rw [if_neg hflip', if_neg hsame', if_neg hsame, if_neg hflip, hbalanced.mirrored]
  · intro other link hlink
    rw [hget] at hlink
    by_cases hsame : other = span
    · subst hsame
      rw [if_pos rfl, List.mem_append, List.mem_singleton] at hlink
      cases hlink with
      | inl hearlier => exact hbalanced.anchored other link hearlier
      | inr hnew => exact hnew ▸ connection.anchoredAt_attachedAt _ _
    · by_cases hflip : other = span.flip
      · subst hflip
        rw [if_neg hsame, if_pos rfl, List.mem_append, List.mem_singleton] at hlink
        cases hlink with
        | inl hearlier => exact hbalanced.anchored _ link hearlier
        | inr hnew => exact hnew ▸ (connection.anchoredAt_attachedAt _ _).farCopy
      · rw [if_neg hsame, if_neg hflip] at hlink
        exact hbalanced.anchored other link hlink

theorem IsMirrored.connect (hmirrored : wiring.IsMirrored) {span : Span}
    (hdevices : span.source.device ≠ span.target.device) (connection : Connection) :
    (wiring.connect span connection).IsMirrored := by
  have hspan := Span.flip_ne_of_devices_ne hdevices
  have hbalanced := hmirrored.isBalanced.connect hspan connection
  refine ⟨hbalanced.mirrored, hbalanced.anchored, fun other hne => ?_⟩
  rw [wiring.get_connect hspan] at hne
  by_cases hsame : other = span
  · exact hsame ▸ hdevices
  · by_cases hflip : other = span.flip
    · exact hflip ▸ hdevices.symm
    · rw [if_neg hsame, if_neg hflip] at hne
      exact hmirrored.distinct other hne

/-- Splitting connections into links keeps the wiring mirrored. -/
theorem IsMirrored.expand {expanded : Wiring} (hmirrored : wiring.IsMirrored)
    (hexpand : wiring.expand = .ok expanded) : expanded.IsMirrored := by
  have hget := get_of_expand_eq_ok hexpand
  constructor
  · intro span
    calc expanded.get span.flip
        = ((wiring.get span).map Connection.farCopy).flatMap Connection.links := by
          rw [hget, hmirrored.mirrored]
      _ = (wiring.get span).flatMap fun connection => connection.farCopy.links :=
          List.flatMap_map ..
      _ = (wiring.get span).flatMap fun connection => connection.links.map Connection.farCopy :=
          List.flatMap_congr fun connection _ => connection.links_farCopy
      _ = (expanded.get span).map Connection.farCopy := by
          rw [hget, List.map_flatMap]
  · intro span link hlink
    rw [hget] at hlink
    obtain ⟨connection, hconnection, hlink⟩ := List.mem_flatMap.mp hlink
    exact (hmirrored.anchored span connection hconnection).of_anchor_eq
      (Connection.anchor_of_mem_links hlink)
  · intro span hne
    apply hmirrored.distinct span
    intro hempty
    exact hne (by rw [hget, hempty]; rfl)

/-- Dropping links that a test on their alternatives refuses keeps a wiring mirrored. -/
theorem IsMirrored.of_filter {filtered : Wiring} (hmirrored : wiring.IsMirrored)
    (keep : Span → Connection → Bool)
    (hget : ∀ span, filtered.get span = (wiring.get span).filter (keep span))
    (hflip : ∀ span link, keep span.flip link.farCopy = keep span link) :
    filtered.IsMirrored := by
  constructor
  · intro span
    calc filtered.get span.flip
        = ((wiring.get span).filter fun link => keep span.flip link.farCopy).map
            Connection.farCopy := by rw [hget, hmirrored.mirrored, List.filter_map]; rfl
      _ = ((wiring.get span).filter (keep span)).map Connection.farCopy := by simp only [hflip]
      _ = (filtered.get span).map Connection.farCopy := by rw [hget]
  · intro span link hlink
    rw [hget] at hlink
    exact hmirrored.anchored span link (List.mem_filter.mp hlink).1
  · intro span hne
    apply hmirrored.distinct span
    intro hempty
    exact hne (by rw [hget, hempty]; rfl)

end Wiring

end LabMatch
