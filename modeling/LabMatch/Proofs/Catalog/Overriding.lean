import LabMatch.Proofs.Catalog.Subtype
import LabMatch.Proofs.Catalog.Visible

/-!
# Overriding along whole chains

Containers declare devices, capability types declare logical devices, devices
and logical devices declare attachments.  A `MemberKind` is any of these: what an
entity declares itself, under which name, and when one member refines another.
The visible members are the nearest ones along the ancestry.

A rule about an entity and its parent says little about the grandparents, since
a level in between may declare nothing.  But what is visible on an entity that
overrides its parent refines what is visible there, and refinement composes.  So
the rule reaches every ancestor.
-/

namespace LabMatch.Catalog

/-- What entities of a family declare and inherit by name. -/
structure MemberKind (family : Family) (Member : Type) where
  name : Member → String
  /-- The members that an entity declares itself. -/
  own : Id family → List Member
  Refines : Member → Member → Prop
  names : ∀ id, ((own id).map name).Nodup
  refl : ∀ member, Refines member member
  trans : ∀ {member other third}, Refines member other → Refines other third →
    Refines member third

namespace MemberKind

variable {family : Family} {Member : Type} (kind : MemberKind family Member) (catalog : Catalog)

def visible (id : Id family) : SortedMap String Member :=
  nearest kind.name ((catalog.ancestry id).map kind.own)

/-- What the entity declares refines what is visible on the ancestor under the name. -/
def Overrides (entity ancestor : Id family) : Prop :=
  ∀ declared ∈ kind.own entity, ∀ inherited,
    (kind.visible catalog ancestor).get? (kind.name declared) = some inherited →
      kind.Refines declared inherited

/-- If the entity declares anything, it declares a refinement of everything that is
visible on the ancestor. -/
def Redeclares (entity ancestor : Id family) : Prop :=
  kind.own entity ≠ [] → ∀ name inherited,
    (kind.visible catalog ancestor).get? name = some inherited →
      ∃ declared ∈ kind.own entity, kind.name declared = name ∧ kind.Refines declared inherited

/-- What is visible on the ancestor is visible on the entity in a refined form. -/
def Sharpens (entity ancestor : Id family) : Prop :=
  ∀ name inherited, (kind.visible catalog ancestor).get? name = some inherited →
    ∃ nearer, (kind.visible catalog entity).get? name = some nearer ∧
      kind.Refines nearer inherited

variable {kind catalog} {entity middle ancestor child parent : Id family}

variable (kind) in
theorem get?_visible_of_own {member : Member} (hmember : member ∈ kind.own entity) :
    (kind.visible catalog entity).get? (kind.name member) = some member := by
  rw [visible, ancestry_eq, List.map_cons]
  exact get?_nearest_of_mem (kind.names entity) hmember

/-- A name that the entity does not declare is looked up on its parent. -/
theorem get?_visible_of_parent (hparent : catalog.parent? child = some parent) {name : String}
    (hname : ∀ member ∈ kind.own child, kind.name member ≠ name) :
    (kind.visible catalog child).get? name = (kind.visible catalog parent).get? name := by
  rw [visible, ancestry_eq, hparent, List.map_cons]
  exact get?_nearest_cons_of_forall_ne hname

theorem Redeclares.overrides (hredeclares : kind.Redeclares catalog entity ancestor) :
    kind.Overrides catalog entity ancestor := by
  intro declared hdeclared inherited hinherited
  obtain ⟨again, hagain, hname, hrefines⟩ :=
    hredeclares (List.ne_nil_of_mem hdeclared) _ _ hinherited
  obtain rfl : again = declared :=
    List.inj_on_of_nodup_map (kind.names entity) hagain hdeclared hname
  exact hrefines

theorem sharpens_refl (entity : Id family) : kind.Sharpens catalog entity entity :=
  fun _ inherited hinherited => ⟨inherited, hinherited, kind.refl inherited⟩

theorem Sharpens.trans (hentity : kind.Sharpens catalog entity middle)
    (hmiddle : kind.Sharpens catalog middle ancestor) : kind.Sharpens catalog entity ancestor := by
  intro name inherited hinherited
  obtain ⟨nearer, hnearer, hrefines⟩ := hmiddle name inherited hinherited
  obtain ⟨nearest, hnearest, hrefines'⟩ := hentity name nearer hnearer
  exact ⟨nearest, hnearest, kind.trans hrefines' hrefines⟩

/-- What overrides its parent sharpens it. -/
theorem Overrides.sharpens (hparent : catalog.parent? child = some parent)
    (hoverrides : kind.Overrides catalog child parent) : kind.Sharpens catalog child parent := by
  intro name inherited hinherited
  by_cases hdeclared : ∃ declared ∈ kind.own child, kind.name declared = name
  · obtain ⟨declared, hmember, rfl⟩ := hdeclared
    exact ⟨declared, kind.get?_visible_of_own hmember,
      hoverrides declared hmember inherited hinherited⟩
  · have hname : ∀ member ∈ kind.own child, kind.name member ≠ name :=
      fun member hmember hsame => hdeclared ⟨member, hmember, hsame⟩
    refine ⟨inherited, ?_, kind.refl inherited⟩
    rw [get?_visible_of_parent hparent hname, hinherited]

/-- Overriding what sharpens an ancestor overrides the ancestor. -/
theorem Overrides.of_sharpens (hoverrides : kind.Overrides catalog entity middle)
    (hsharpens : kind.Sharpens catalog middle ancestor) :
    kind.Overrides catalog entity ancestor := by
  intro declared hdeclared inherited hinherited
  obtain ⟨nearer, hnearer, hrefines⟩ := hsharpens _ inherited hinherited
  exact kind.trans (hoverrides declared hdeclared nearer hnearer) hrefines

/-- Declaring again all of what sharpens an ancestor declares again all of the ancestor. -/
theorem Redeclares.of_sharpens (hredeclares : kind.Redeclares catalog entity middle)
    (hsharpens : kind.Sharpens catalog middle ancestor) :
    kind.Redeclares catalog entity ancestor := by
  intro hown name inherited hinherited
  obtain ⟨nearer, hnearer, hrefines⟩ := hsharpens name inherited hinherited
  obtain ⟨declared, hdeclared, hname, hrefines'⟩ := hredeclares hown name nearer hnearer
  exact ⟨declared, hdeclared, hname, kind.trans hrefines' hrefines⟩

/-! ## From parents to ancestors -/

section Chains

variable (hfirst : ∀ {child parent : Id family}, catalog.IsParent child parent →
  catalog.parent? child = some parent)

include hfirst

/-- Where every entity overrides its parent, it sharpens everything above it. -/
theorem sharpens_of_reflTransGen
    (hparents : ∀ child parent, catalog.IsParent child parent →
      kind.Overrides catalog child parent)
    (hpath : Relation.ReflTransGen catalog.IsParent entity ancestor) :
    kind.Sharpens catalog entity ancestor := by
  induction hpath using Relation.ReflTransGen.head_induction_on with
  | refl => exact sharpens_refl ancestor
  | head hparent _ ih => exact ((hparents _ _ hparent).sharpens (hfirst hparent)).trans ih

/-- Overriding towards all ancestors is overriding towards the parents. -/
theorem forall_isAncestor_overrides_iff :
    (∀ entity ancestor, catalog.IsAncestor entity ancestor →
      kind.Overrides catalog entity ancestor) ↔
    ∀ child parent, catalog.IsParent child parent → kind.Overrides catalog child parent := by
  constructor
  · intro hancestors child parent hparent
    exact hancestors child parent (.single hparent)
  · intro hparents entity ancestor hancestor
    obtain ⟨parent, hparent, hpath⟩ := Relation.TransGen.head'_iff.mp hancestor
    exact (hparents entity parent hparent).of_sharpens
      (sharpens_of_reflTransGen hfirst hparents hpath)

/-- Declaring again towards all ancestors is declaring again towards the parents. -/
theorem forall_isAncestor_redeclares_iff :
    (∀ entity ancestor, catalog.IsAncestor entity ancestor →
      kind.Redeclares catalog entity ancestor) ↔
    ∀ child parent, catalog.IsParent child parent → kind.Redeclares catalog child parent := by
  constructor
  · intro hancestors child parent hparent
    exact hancestors child parent (.single hparent)
  · intro hparents entity ancestor hancestor
    obtain ⟨parent, hparent, hpath⟩ := Relation.TransGen.head'_iff.mp hancestor
    exact (hparents entity parent hparent).of_sharpens
      (sharpens_of_reflTransGen hfirst
        (fun child parent hparent => (hparents child parent hparent).overrides) hpath)

end Chains

end MemberKind

end LabMatch.Catalog
