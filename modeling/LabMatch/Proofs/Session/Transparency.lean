import LabMatch.Proofs.Matching.Plain
import LabMatch.Proofs.Session.Labels

/-!
# Notes are transparent

A session answers questions, one after the other.  No answer depends on the
questions that were asked before it, whether they were answered or failed: the
notes that they leave only ever save work.

Questions about variants take a connection from outside; they are asked about
legible connections here.
-/

namespace LabMatch.Session

/-! ## Questions -/

inductive Question
  | hierarchy
  | visibleDevices (container : ContainerId)
  | activeBinding (container : ContainerId) (device : DeviceId) (attr : String)
  | requirements (capability : CapabilityId)
  | variant (capability : CapabilityId) (method logicalDevice : String) (available : Connection)
  | absoluteWiring (container : ContainerId)
  | reducedWiring (container : ContainerId)
  | pair (scenario setup : ContainerId)
  | everything

namespace Question

def Answer : Question → Type
  | hierarchy => Except HierarchyError Unit
  | visibleDevices _ => List DeviceId
  | activeBinding _ _ _ => Option Binding
  | requirements _ => Except ResolveError Requirements
  | variant _ _ _ _ => Except ResolveError String
  | absoluteWiring _ => Wiring
  | reducedWiring _ => Except ResolveError ReducedWiring
  | pair _ _ => PairOutcome
  | everything => Except HierarchyError (List PairOutcome)

def Legible : Question → Prop
  | variant _ _ _ available => available.Legible
  | _ => True

end Question

def ask (catalog : Catalog) : (question : Question) → StateM Session question.Answer
  | .hierarchy => (checkHierarchy catalog).run
  | .visibleDevices container => devicesOf catalog container
  | .activeBinding container device attr => activeBinding catalog container device attr
  | .requirements capability => (requirementsOf catalog capability).run
  | .variant capability method logicalDevice available =>
    (variantFor catalog capability method logicalDevice available).run
  | .absoluteWiring container => absoluteWiring catalog container
  | .reducedWiring container => (reducedWiring catalog container).run
  | .pair scenario setup => matchPair catalog scenario setup
  | .everything => (matchAll catalog).run

def afterAsking (catalog : Catalog) (questions : List Question) : Session :=
  questions.foldl (fun session question => ((ask catalog question).run session).2) fresh

/-- The computation has one answer on all sessions with faithful notes. -/
def Steady {Answer : Type} (catalog : Catalog) (computation : StateM Session Answer) : Prop :=
  ∃ answer, ∀ labels, Answers (FaithfulWith catalog labels) computation answer

variable {catalog : Catalog}

/-- Every question but that about a variant has one answer. -/
theorem steady_ask (question : Question) :
    Steady catalog (ask catalog question) ∨
      ∃ capability method logicalDevice available,
        question = .variant capability method logicalDevice available := by
  cases question with
  | hierarchy => exact Or.inl ⟨_, fun _ => resolves_checkHierarchy catalog⟩
  | visibleDevices container => exact Or.inl ⟨_, fun _ => answers_devicesOf container⟩
  | activeBinding container device attr =>
    exact Or.inl ⟨_, fun _ => answers_activeBinding container device attr⟩
  | requirements capability => exact Or.inl ⟨_, fun _ => resolves_requirementsOf capability⟩
  | variant capability method logicalDevice available => exact Or.inr ⟨_, _, _, _, rfl⟩
  | absoluteWiring container => exact Or.inl ⟨_, fun _ => answers_absoluteWiring container⟩
  | reducedWiring container => exact Or.inl ⟨_, fun _ => resolves_reducedWiring container⟩
  | pair scenario setup => exact Or.inl ⟨_, fun _ => answers_matchPair scenario setup⟩
  | everything => exact Or.inl ⟨_, fun _ => resolves_matchAll catalog⟩

/-- A legible question has one answer on all sessions with sound notes. -/
theorem exists_answer (question : Question) (hlegible : question.Legible) :
    ∃ answer, Answers (Sound catalog) (ask catalog question) answer := by
  cases steady_ask question with
  | inl hsteady =>
    obtain ⟨answer, hanswer⟩ := hsteady
    exact ⟨answer, Answers.sound hanswer⟩
  | inr hvariant =>
    obtain ⟨capability, method, logicalDevice, available, rfl⟩ := hvariant
    exact ⟨_, resolves_variantFor hlegible capability⟩

theorem afterAsking_append (questions : List Question) (question : Question) :
    afterAsking catalog (questions ++ [question]) =
      ((ask catalog question).run (afterAsking catalog questions)).2 := by
  simp [afterAsking]

/-- No question about a legible connection spoils the notes. -/
theorem sound_afterAsking {questions : List Question}
    (hlegible : ∀ question ∈ questions, question.Legible) :
    Sound catalog (afterAsking catalog questions) := by
  induction questions using List.reverseRecOn with
  | nil => exact sound_fresh catalog
  | append_singleton earlier question ih =>
    rw [List.forall_mem_append, List.forall_mem_singleton] at hlegible
    obtain ⟨answer, hanswer⟩ := exists_answer question hlegible.2
    rw [afterAsking_append]
    exact (hanswer _ (ih hlegible.1)).2

/-- A steady computation keeps the notes faithful. -/
theorem Steady.keeps {Answer : Type} {computation : StateM Session Answer}
    (hsteady : Steady catalog computation) : Keeps (Faithful catalog) computation := by
  obtain ⟨answer, hanswer⟩ := hsteady
  intro session hfaithful
  exact (hanswer (fun id => (session.capabilityNotes id).variants) session
    ⟨hfaithful, fun _ => rfl⟩).2.toFaithful

/-- Any questions at all leave what is noted about wirings and requirements right. -/
theorem faithful_afterAsking (catalog : Catalog) (questions : List Question) :
    Faithful catalog (afterAsking catalog questions) := by
  induction questions using List.reverseRecOn with
  | nil => exact faithful_fresh catalog
  | append_singleton earlier question ih =>
    rw [afterAsking_append]
    apply (_ : Keeps (Faithful catalog) (ask catalog question)) _ ih
    cases steady_ask question with
    | inl hsteady => exact hsteady.keeps
    | inr hvariant =>
      obtain ⟨capability, method, logicalDevice, available, rfl⟩ := hvariant
      exact keeps_variantFor capability

/-- Whatever was asked before, a computation with one answer gives this answer. -/
theorem run_afterAsking {Answer : Type} {computation : StateM Session Answer} {answer : Answer}
    (hanswer : ∀ labels, Answers (FaithfulWith catalog labels) computation answer)
    (questions : List Question) :
    (computation.run (afterAsking catalog questions)).1 = answer :=
  (hanswer _ _ ⟨faithful_afterAsking catalog questions, fun _ => rfl⟩).1

/-- Whatever was asked before, an answer is the one of a fresh session. -/
theorem ask_afterAsking_eq_ask_fresh (catalog : Catalog) {questions : List Question}
    {question : Question} (hbefore : ∀ earlier ∈ questions, earlier.Legible)
    (hlegible : question.Legible) :
    ((ask catalog question).run (afterAsking catalog questions)).1 =
      ((ask catalog question).run fresh).1 := by
  obtain ⟨answer, hanswer⟩ := exists_answer question hlegible
  calc ((ask catalog question).run (afterAsking catalog questions)).1
      = answer := (hanswer _ (sound_afterAsking hbefore)).1
    _ = ((ask catalog question).run fresh).1 := (hanswer fresh (sound_fresh catalog)).1.symm

/-- One capability type with one method that has a variant for a wired peer. -/
def wiredCatalog : Catalog :=
  { Catalog.empty with
    capabilities := [⟨"Link", [], [],
      [⟨"send", [⟨"wired", [⟨"peer", Connection.ofTags (TagSet.ofList ["lan"])⟩]⟩]⟩]⟩] }

/-- A question about a variant is answered alike before and after a run of everything. -/
theorem ask_variant_after_everything :
    let question := Question.variant ⟨0⟩ "send" "peer" (Connection.ofTags (TagSet.ofList ["lan"]))
    question.Legible ∧
      ((ask wiredCatalog question).run (afterAsking wiredCatalog [question, .everything])).1 =
        ((ask wiredCatalog question).run fresh).1 := by
  have hlegible : (Connection.ofTags (TagSet.ofList ["lan"])).Legible := by
    intro tag htag
    obtain rfl : tag = "lan" := by simpa [Connection.ofTags, Shape.tags] using htag
    have hcharacters : "lan".toList.all Expression.isNameCharacter = true := by decide
    exact ⟨by decide, by decide, List.all_eq_true.mp hcharacters⟩
  refine ⟨hlegible, ask_afterAsking_eq_ask_fresh wiredCatalog ?_ hlegible⟩
  intro earlier hearlier
  rcases List.mem_pair.mp hearlier with rfl | rfl
  · exact hlegible
  · trivial

end LabMatch.Session
