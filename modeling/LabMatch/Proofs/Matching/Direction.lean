import LabMatch.Proofs.Matching.Delivery

/-!
# Delivery in either direction

The search stops at the first arrival but may pass through its own device again, so
the routes found from one device to another are not the mirror images of those found
the other way round.  Between two devices of a mirrored wiring, the routes whose links
all work both ways still deliver the same alternatives in both directions.
-/

namespace LabMatch.Wiring

def bothWayRoutes (wiring : Wiring) (requirement : Connection) (start target : DeviceId) :
    List Route :=
  (wiring.routes requirement start target).filter Route.worksBothWays

/-- The alternatives of a requirement that the routes working both ways deliver. -/
def deliveredBothWays (wiring : Wiring) (requirement : Connection) (start target : DeviceId) :
    Set TagSet :=
  {tags | ∃ route ∈ wiring.bothWayRoutes requirement start target,
    ∃ delivered, route.delivered requirement = some delivered ∧ tags ∈ delivered.alternatives}

variable {wiring : Wiring} {requirement : Connection} {start target : DeviceId}

/-- What is delivered is what walks over links that work both ways reach. -/
theorem mem_deliveredBothWays_iff (hne : start ≠ target) {tags : TagSet} :
    tags ∈ wiring.deliveredBothWays requirement start target ↔
      tags ∈ requirement.alternatives ∧ wiring.Reaches tags true start target := by
  rw [← exists_mem_deliveredBy_iff hne]
  constructor
  · rintro ⟨route, hroute, delivered, hdelivered, htags⟩
    refine ⟨delivered.unanchored, List.mem_filterMap.mpr ⟨route, hroute, ?_⟩, htags⟩
    rw [hdelivered, Option.map_some]
  · rintro ⟨connection, hconnection, htags⟩
    obtain ⟨route, hroute, hdelivers⟩ := List.mem_filterMap.mp hconnection
    obtain ⟨delivered, hdelivered, rfl⟩ := Option.map_eq_some_iff.mp hdelivers
    exact ⟨route, hroute, delivered, hdelivered, htags⟩

/-- Every route that works both ways delivers something. -/
theorem bothWayRoutes_eq_nil_iff :
    wiring.bothWayRoutes requirement start target = [] ↔
      wiring.deliveredBothWays requirement start target = ∅ := by
  constructor
  · intro hnone
    simp [deliveredBothWays, hnone]
  · intro hempty
    by_contra hsome
    obtain ⟨route, hroute⟩ := List.exists_mem_of_ne_nil _ hsome
    have hcounted : route ∈ countedRoutes wiring requirement true start target := hroute
    obtain ⟨trail, htrail, rfl, -⟩ := mem_countedRoutes.mp hcounted
    obtain ⟨delivered, hdelivered, -⟩ := htrail.delivered_eq_some
    obtain ⟨tags, htags⟩ := List.exists_mem_of_ne_nil _ delivered.alternatives_ne_nil
    exact hempty.le ⟨trail.route, hroute, delivered, hdelivered, htags⟩

/-- The direction of the search does not matter for routes that work both ways: from
either of two devices to the other they deliver the same alternatives, and there are
none of them in one direction exactly if there are none in the other. -/
theorem deliveredBothWays_symm (hmirrored : wiring.IsMirrored) (requirement : Connection)
    (hne : start ≠ target) :
    wiring.deliveredBothWays requirement start target =
        wiring.deliveredBothWays requirement target start ∧
      (wiring.bothWayRoutes requirement start target = [] ↔
        wiring.bothWayRoutes requirement target start = []) := by
  have hsame : wiring.deliveredBothWays requirement start target =
      wiring.deliveredBothWays requirement target start := by
    ext tags
    rw [mem_deliveredBothWays_iff hne, mem_deliveredBothWays_iff hne.symm]
    exact and_congr_right fun _ => ⟨hmirrored.reaches_symm, hmirrored.reaches_symm⟩
  refine ⟨hsame, ?_⟩
  rw [bothWayRoutes_eq_nil_iff, bothWayRoutes_eq_nil_iff, hsame]

/-- Between the outer devices of the rack both directions deliver the same. -/
theorem deliveredBothWays_symm_pingLab :
    let lan := Connection.ofTags (TagSet.ofList ["lan"])
    ∃ reduced, Catalog.pingLab.reduced ⟨1⟩ = .ok reduced ∧ reduced.links.IsMirrored ∧
      reduced.links.bothWayRoutes lan ⟨2⟩ ⟨4⟩ ≠ [] ∧
      reduced.links.bothWayRoutes lan ⟨4⟩ ⟨2⟩ ≠ [] ∧
      reduced.links.deliveredBothWays lan ⟨2⟩ ⟨4⟩ =
        reduced.links.deliveredBothWays lan ⟨4⟩ ⟨2⟩ := by
  intro lan
  have hok : (Catalog.pingLab.reduced ⟨1⟩).isOk = true := by decide +kernel
  obtain ⟨reduced, hreduced⟩ := Catalog.exists_of_isOk hok
  obtain ⟨-, -, -, hmirrored, -⟩ :=
    Catalog.filteredFrom_reduced Catalog.built_pingLab.wellLaidOut hreduced
  obtain ⟨hsame, hnone⟩ := deliveredBothWays_symm hmirrored lan
    (show (⟨2⟩ : DeviceId) ≠ ⟨4⟩ by decide)
  have hfound : (Catalog.pingLab.reduced ⟨1⟩).toOption.any (fun reduced =>
      !(reduced.links.bothWayRoutes lan ⟨2⟩ ⟨4⟩).isEmpty) = true := by
    decide +kernel
  have hsome : reduced.links.bothWayRoutes lan ⟨2⟩ ⟨4⟩ ≠ [] := by
    simpa [hreduced, Except.toOption] using hfound
  exact ⟨reduced, hreduced, hmirrored, hsome, mt hnone.mpr hsome, hsame⟩

end LabMatch.Wiring
