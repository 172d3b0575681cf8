import LabMatch.Proofs.Capability.Variant
import LabMatch.Proofs.Connection.Signature
import LabMatch.Proofs.Session.Transparency

/-!
# Notes under one signature

A label is noted under the signature of the connection that was available when it was
chosen, and every connection with this signature is answered from the note.  Between
separable connections nothing goes wrong: one signature means one list of alternatives,
so no condition tells the connections apart and both get the same label.

Tags from outside need not be separable.  A `+`, a `|` or the word for the bare set in a
tag makes different connections share a signature, and then a session gives one of them
the label of the other.
-/

namespace LabMatch

open Session

/-- A condition holds or fails alike for connections with the same alternatives. -/
theorem Connection.within_eq_of_alternatives_eq {connection other : Connection}
    (halternatives : connection.alternatives = other.alternatives) (condition : Connection) :
    condition.within connection = condition.within other :=
  Connection.within_congr rfl (congrArg offeredBy halternatives)

/-- The same alternatives have one signature.  Separable connections with one signature have
the same alternatives, so every condition answers the same for both, and so does a fresh
session that is asked for a label. -/
theorem Connection.signature_identifies_alternatives (connection other : Connection) :
    (connection.alternatives = other.alternatives → connection.signature = other.signature) ∧
    (connection.Separable → other.Separable → connection.signature = other.signature →
      connection.alternatives = other.alternatives ∧
      (∀ condition : Connection, condition.within connection = condition.within other) ∧
      ∀ catalog capability method logicalDevice,
        ((variantFor catalog capability method logicalDevice connection).run.run fresh).1 =
          ((variantFor catalog capability method logicalDevice other).run.run fresh).1) := by
  constructor
  · intro halternatives
    rw [signature, signature, halternatives]
  · intro hseparable hother hsignature
    have halternatives := alternatives_eq_of_signature_eq hseparable hother hsignature
    refine ⟨halternatives, within_eq_of_alternatives_eq halternatives, ?_⟩
    intro catalog capability method logicalDevice
    rw [run_variantFor_of_unlabelled capability fun _ => rfl,
      run_variantFor_of_unlabelled capability fun _ => rfl]
    exact catalog.variantLabel_congr (congrArg offeredBy halternatives) method logicalDevice
      capability

/-- A bus of two protocols.  Its tags contain blanks, which separate nothing. -/
def fieldBus : Connection := Connection.ofTags (TagSet.ofList ["can bus", "j1939"])

/-- The same alternatives written as a conjunction. -/
def joinedFieldBus : Connection :=
  ⟨.every (.link (TagSet.ofList ["j1939"])) (.link (TagSet.ofList ["can bus"])) [], none⟩

/-- Two ways of writing the bus share the signature, and the alternatives. -/
theorem Connection.signature_identifies_alternatives_fieldBus :
    fieldBus.Separable ∧ joinedFieldBus.Separable ∧
      fieldBus.signature = joinedFieldBus.signature ∧
      fieldBus.alternatives = joinedFieldBus.alternatives := by
  have hcan : IsSeparable "can bus" := ⟨by decide, by decide, by decide⟩
  have hprotocol : IsSeparable "j1939" := ⟨by decide, by decide, by decide⟩
  have hfieldBus : fieldBus.Separable := by
    intro tag htag
    obtain rfl | rfl : tag = "can bus" ∨ tag = "j1939" := by
      simpa [fieldBus, ofTags, Shape.tags] using htag
    · exact hcan
    · exact hprotocol
  have hjoined : joinedFieldBus.Separable := by
    intro tag htag
    obtain rfl | rfl : tag = "j1939" ∨ tag = "can bus" := by
      simpa [joinedFieldBus, Shape.tags, Shape.pooledTags] using htag
    · exact hprotocol
    · exact hcan
  have hsignature : fieldBus.signature = joinedFieldBus.signature := by decide
  exact ⟨hfieldBus, hjoined, hsignature,
    ((signature_identifies_alternatives fieldBus joinedFieldBus).2 hfieldBus hjoined hsignature).1⟩

def messagingDeclarations : List Declaration :=
  [.capability "Messaging", .logicalDevice ⟨0⟩ "peer",
    .variant ⟨0⟩ "send" "network" [⟨"peer", Connection.ofTags (TagSet.ofList ["tcp"])⟩]]

def messagingLab : Catalog := (Catalog.declareAll messagingDeclarations).toOption.getD .empty

/-- A link with two tags and a link with one tag that reads like both of them share a
signature.  Once the label for the first one is noted, the second one gets it too, although
no variant applies to it.  Tags with `|` and the word for the bare set collide as well. -/
theorem Connection.signature_collides_joinedTag :
    let twoTags := Connection.ofTags (TagSet.ofList ["ipv4", "tcp"])
    let oneTag := Connection.ofTags (TagSet.ofList ["ipv4+tcp"])
    let answer := fun earlier =>
      ((variantFor messagingLab ⟨0⟩ "send" "peer" oneTag).run.run
        (afterAsking messagingLab earlier)).1
    Catalog.Built messagingLab ∧
      (twoTags.signature = oneTag.signature ∧ twoTags.alternatives ≠ oneTag.alternatives) ∧
      answer [] = .error (.unclearVariant "Messaging" "send" "peer" []) ∧
      answer [.variant ⟨0⟩ "send" "peer" twoTags] = .ok "network" ∧
      (let either : Connection :=
        ⟨.either (.link (TagSet.ofList ["tcp"])) (.link (TagSet.ofList ["usb"])) [], none⟩
      let barred := Connection.ofTags (TagSet.ofList ["tcp | usb"])
      either.signature = barred.signature ∧ either.alternatives ≠ barred.alternatives) ∧
      (let word := Connection.ofTags (TagSet.ofList [TagSet.bareWord])
      bare.signature = word.signature ∧ bare.alternatives ≠ word.alternatives) := by
  intro twoTags oneTag answer
  refine ⟨?_, ⟨by decide, by decide⟩, ?_, ?_, ⟨by decide, by decide⟩, ⟨by decide, by decide⟩⟩
  · exact Catalog.built_of_declareAll (by decide +kernel) (by decide +kernel)
  · decide +kernel
  · decide +kernel

end LabMatch
