import LabMatch.Proofs.Matching.Placements
import Mathlib.Data.List.GetD
import Mathlib.Data.Nat.Factorial.Basic

/-!
# The order of the placements

A placement is told by the positions of the places it chooses, device by device.  The
placements are enumerated in the lexicographic order of these positions, so their number is
that of the injections.  A search that marks places as taken and takes its marks back finds
the same placements in the same order.
-/

namespace LabMatch

variable {devices places : List DeviceId}

/-- The positions among the places that the placement chooses for the devices, in their
order. -/
def Placement.positions (placement : Placement) (devices places : List DeviceId) : List Nat :=
  (placement.along devices).map fun entry => places.idxOf entry.2

/-! ## Order and number of the assignments -/

/-- Assignments come in the lexicographic order of what they choose, whatever rank the places
ascend by.  The rank stays that of all places while the induction removes the taken ones. -/
theorem lexicographic_assignments {rank : DeviceId → Nat}
    (hplaces : places.Pairwise fun place other => rank place < rank other) :
    (assignments devices places).Pairwise fun assigned other =>
      assigned.map (fun entry => rank entry.2) < other.map fun entry => rank entry.2 := by
  induction devices generalizing places with
  | nil => exact List.pairwise_singleton _ _
  | cons device others ih =>
    have hnodup : places.Nodup :=
      hplaces.imp fun hlt hsame => Nat.ne_of_lt hlt (congrArg rank hsame)
    rw [assignments_cons hnodup, List.pairwise_flatMap]
    constructor
    · intro place _
      rw [List.pairwise_map]
      exact (ih (hplaces.sublist List.erase_sublist)).imp List.Lex.cons
    · apply hplaces.imp
      intro place other hlt assigned hassigned assigned' hassigned'
      obtain ⟨rest, -, rfl⟩ := List.mem_map.mp hassigned
      obtain ⟨rest', -, rfl⟩ := List.mem_map.mp hassigned'
      exact List.Lex.rel hlt

/-- There are as many assignments as injections of the devices into the places. -/
theorem length_assignments (hplaces : places.Nodup) :
    (assignments devices places).length = places.length.descFactorial devices.length := by
  induction devices generalizing places with
  | nil => rfl
  | cons device others ih =>
    have heach : ∀ place ∈ places, ((assignments others (places.erase place)).map
        fun assigned => (device, place) :: assigned).length =
          (places.length - 1).descFactorial others.length := by
      intro place hplace
      rw [List.length_map, ih (hplaces.erase place), List.length_erase_of_mem hplace]
    rw [assignments_cons hplaces, List.length_flatMap, List.map_congr_left heach,
      List.map_const', List.sum_replicate_nat, List.length_cons]
    cases places.length with
    | zero => rw [Nat.zero_mul, Nat.zero_descFactorial_succ]
    | succ count => rw [Nat.add_sub_cancel, Nat.succ_descFactorial_succ]

/-! ## Order and number of the placements -/

/-- The position of a place grows along the places. -/
theorem pairwise_idxOf (hplaces : places.Nodup) :
    places.Pairwise fun place other => places.idxOf place < places.idxOf other := by
  rw [List.pairwise_iff_getElem]
  intro earlier later hearlier hlater hlt
  rw [hplaces.idxOf_getElem, hplaces.idxOf_getElem]
  exact hlt

theorem positions_ofList (hdevices : devices.Nodup) (hplaces : places.Nodup)
    {assigned : List (DeviceId × DeviceId)} (hassigned : assigned ∈ assignments devices places) :
    Placement.positions (SortedMap.ofList assigned) devices places =
      assigned.map fun entry => places.idxOf entry.2 := by
  have hkeys := ((mem_assignments_iff hplaces).mp hassigned).1
  rw [Placement.positions, ← hkeys, Placement.along_ofList (hkeys ▸ hdevices)]

/-- Placements ascend lexicographically by the positions of the chosen places. -/
theorem lexicographic_placements (hdevices : devices.Nodup) (hplaces : places.Nodup) :
    (placements devices places).Pairwise fun placement other =>
      placement.positions devices places < other.positions devices places := by
  rw [placements]
  split
  · rw [List.pairwise_map]
    apply (lexicographic_assignments (pairwise_idxOf hplaces)).imp_of_mem
    intro assigned other hassigned hother hlt
    rw [positions_ofList hdevices hplaces hassigned, positions_ofList hdevices hplaces hother]
    exact hlt
  · exact List.Pairwise.nil

/-- There are as many placements as injections of the devices into the places. -/
theorem length_placements (hplaces : places.Nodup) :
    (placements devices places).length = places.length.descFactorial devices.length := by
  rw [placements]
  split
  · rw [List.length_map, length_assignments hplaces]
  · next hmore =>
    exact (Nat.descFactorial_eq_zero_iff_lt.mpr (Nat.lt_of_not_le hmore)).symm

/-! ## Searching with marks -/

/-- A search in progress: which of the places are taken, where the devices so far are placed,
and what was found. -/
structure Search where
  taken : List Bool
  current : Placement
  found : List Placement

namespace Search

variable {search : Search} {device place : DeviceId} {index : Nat}

def isTaken (search : Search) (index : Nat) : Bool := search.taken.getD index false

/-- Marks the place as taken and places the device on it. -/
def take (search : Search) (device place : DeviceId) (index : Nat) : Search :=
  { search with
    taken := search.taken.set index true
    current := search.current.insert device place }

def giveBack (search : Search) (device : DeviceId) (index : Nat) : Search :=
  { search with
    taken := search.taken.set index false
    current := search.current.erase device }

/-- Places the devices in turn on each place that is not taken, and goes on from there with the
devices that are left. -/
def extend (places : List DeviceId) : List DeviceId → Search → Search
  | [], search => { search with found := search.found ++ [search.current] }
  | device :: others, search =>
    places.zipIdx.foldl (fun search candidate =>
      if search.isTaken candidate.2 then search
      else (extend places others (search.take device candidate.1 candidate.2)).giveBack
        device candidate.2) search

def start (places : List DeviceId) : Search :=
  ⟨List.replicate places.length false, SortedMap.empty, []⟩

def run (devices places : List DeviceId) : List Placement :=
  if devices.length ≤ places.length then (extend places devices (start places)).found else []

def free (search : Search) (places : List DeviceId) : List DeviceId :=
  (places.zipIdx.filter fun candidate => !search.isTaken candidate.2).map Prod.fst

def adding (search : Search) (found : List Placement) : Search :=
  { search with found := search.found ++ found }

theorem adding_nil (search : Search) : search.adding [] = search := by
  rw [adding, List.append_nil]

theorem adding_adding (search : Search) (found more : List Placement) :
    (search.adding found).adding more = search.adding (found ++ more) := by
  rw [adding, adding, adding, List.append_assoc]

theorem nodup_free (hplaces : places.Nodup) : (search.free places).Nodup := by
  have hsublist : (search.free places).Sublist places := by
    conv => rhs; rw [← List.zipIdx_map_fst 0 places]
    exact List.filter_sublist.map Prod.fst
  exact hsublist.nodup hplaces

theorem free_start : (start places).free places = places := by
  have huntaken : ∀ candidate ∈ places.zipIdx,
      (!(start places).isTaken candidate.2) = true := by
    intro candidate hcandidate
    have hindex : candidate.2 < places.length := List.snd_lt_of_mem_zipIdx hcandidate
    simp [isTaken, start, hindex]
  rw [free, List.filter_eq_self.mpr huntaken, List.zipIdx_map_fst]

/-- A place that is taken is no longer free, and the others stay as they are. -/
theorem free_take (hplaces : places.Nodup) (hlength : search.taken.length = places.length)
    (hcandidate : (place, index) ∈ places.zipIdx) :
    (search.take device place index).free places = (search.free places).erase place := by
  have hplace : places[index]? = some place := List.mem_zipIdx_iff_getElem?.mp hcandidate
  have hindex : index < places.length := List.snd_lt_of_mem_zipIdx hcandidate
  rw [(nodup_free hplaces).erase_eq_filter, free, free, List.filter_map, List.filter_filter]
  congr 1
  apply List.filter_congr
  intro candidate hother
  have hother : places[candidate.2]? = some candidate.1 := List.mem_zipIdx_iff_getElem?.mp hother
  by_cases hsame : index = candidate.2
  · have hsamePlace : candidate.1 = place := by
      rw [← Option.some_inj, ← hother, ← hsame, hplace]
    simp [isTaken, take, ← hsame, hsamePlace, hlength, hindex]
  · have hotherPlace : (candidate.1 != place) = true := by
      rw [bne_iff_ne]
      intro hsamePlace
      apply hsame
      rw [← List.getElem?_inj hindex hplaces, hplace, hother, hsamePlace]
    simp [isTaken, take, hsame, hotherPlace]

/-- What was marked and placed is restored, and what was found in between stays. -/
theorem giveBack_take (search : Search) (huntaken : ¬ search.isTaken index)
    (hindex : index < search.taken.length) (hfresh : search.current.get? device = none)
    (found : List Placement) :
    ((search.take device place index).adding found).giveBack device index =
      search.adding found := by
  have htaken : (search.taken.set index true).set index false = search.taken := by
    have hfalse : search.taken[index] = false := by
      rw [isTaken, List.getD_eq_getElem _ _ hindex] at huntaken
      exact Bool.eq_false_iff.mpr huntaken
    rw [List.set_set, ← hfalse, List.set_getElem_self]
  have hcurrent : (search.current.insert device place).erase device = search.current := by
    apply SortedMap.ext_get?
    intro other
    rw [SortedMap.get?_erase, SortedMap.get?_insert]
    by_cases hsame : other = device
    · rw [if_pos hsame, hsame, hfresh]
    · rw [if_neg hsame, if_neg hsame]
  rw [giveBack, adding, take, adding, htaken, hcurrent]

/-- A loop that passes over what is taken and otherwise leaves the search as it was, with some
more found, collects what the free places yield. -/
theorem foldl_untaken {trial : Search → DeviceId × Nat → Search}
    {gain : DeviceId → List Placement} {candidates : List (DeviceId × Nat)}
    (htrial : ∀ candidate ∈ candidates, ¬ search.isTaken candidate.2 → ∀ found,
      trial (search.adding found) candidate = search.adding (found ++ gain candidate.1))
    (found : List Placement) :
    candidates.foldl (fun search candidate =>
        if search.isTaken candidate.2 then search else trial search candidate)
        (search.adding found) =
      search.adding (found ++ ((candidates.filter fun candidate =>
        !search.isTaken candidate.2).map Prod.fst).flatMap gain) := by
  induction candidates generalizing found with
  | nil => rw [List.foldl_nil, List.filter_nil, List.map_nil, List.flatMap_nil, List.append_nil]
  | cons candidate others ih =>
    obtain ⟨hfirst, hothers⟩ := List.forall_mem_cons.mp htrial
    rw [List.foldl_cons]
    by_cases htaken : search.isTaken candidate.2
    · have hstill : (search.adding found).isTaken candidate.2 := htaken
      rw [if_pos hstill, ih hothers, List.filter_cons_of_neg (by simpa using htaken)]
    · have hstill : ¬ (search.adding found).isTaken candidate.2 := htaken
      rw [if_neg hstill, hfirst htaken, ih hothers,
        List.filter_cons_of_pos (by simpa using htaken), List.map_cons, List.flatMap_cons,
        List.append_assoc]

def placeAll (placement : Placement) (assigned : List (DeviceId × DeviceId)) : Placement :=
  assigned.foldl (fun placement entry => placement.insert entry.1 entry.2) placement

/-- The search goes through the assignments of what is free, and is left with the marks and
the devices it started with. -/
theorem extend_eq (search : Search) (hdevices : devices.Nodup) (hplaces : places.Nodup)
    (hlength : search.taken.length = places.length)
    (hfresh : ∀ device ∈ devices, search.current.get? device = none) :
    extend places devices search =
      search.adding ((assignments devices (search.free places)).map (placeAll search.current)) := by
  induction devices generalizing search with
  | nil => rfl
  | cons device others ih =>
    obtain ⟨hdevice, hothers⟩ := List.nodup_cons.mp hdevices
    obtain ⟨hfreshDevice, hfreshOthers⟩ := List.forall_mem_cons.mp hfresh
    let gain : DeviceId → List Placement := fun place =>
      (assignments others ((search.free places).erase place)).map fun assigned =>
        placeAll search.current ((device, place) :: assigned)
    have htrial : ∀ candidate ∈ places.zipIdx, ¬ search.isTaken candidate.2 → ∀ found,
        (extend places others ((search.adding found).take device candidate.1
          candidate.2)).giveBack device candidate.2 =
            search.adding (found ++ gain candidate.1) := by
      intro candidate hcandidate huntaken found
      have hindex : candidate.2 < search.taken.length := by
        rw [hlength]
        exact List.snd_lt_of_mem_zipIdx hcandidate
      have hfreshStill : ∀ other ∈ others,
          (search.current.insert device candidate.1).get? other = none := by
        intro other hother
        have hne : other ≠ device := fun hsame => hdevice (hsame ▸ hother)
        rw [SortedMap.get?_insert, if_neg hne]
        exact hfreshOthers other hother
      have hextend := ih ((search.adding found).take device candidate.1 candidate.2) hothers
        (List.length_set.trans hlength) hfreshStill
      have hfree : ((search.adding found).take device candidate.1 candidate.2).free places =
          (search.free places).erase candidate.1 := free_take hplaces hlength hcandidate
      rw [hextend, hfree, giveBack_take (search.adding found) huntaken hindex hfreshDevice,
        adding_adding]
      rfl
    calc
      extend places (device :: others) search =
          extend places (device :: others) (search.adding []) := by rw [adding_nil]
      _ = search.adding ([] ++ (search.free places).flatMap gain) := foldl_untaken htrial []
      _ = search.adding ((assignments (device :: others) (search.free places)).map
            (placeAll search.current)) := by
        simp only [assignments_cons (nodup_free hplaces), List.map_flatMap, List.map_map,
          List.nil_append]
        rfl

/-- The search finds the placements, in the same order. -/
theorem run_eq (hdevices : devices.Nodup) (hplaces : places.Nodup) :
    run devices places = placements devices places := by
  have hfound : (extend places devices (start places)).found =
      (assignments devices places).map SortedMap.ofList := by
    rw [extend_eq _ hdevices hplaces List.length_replicate fun _ _ => rfl, free_start]
    exact List.nil_append _
  rw [run, placements, hfound]

end Search

/-! ## The enumeration -/

/-- The placements are enumerated that give each device a place of its own: every one of them
once, in the lexicographic order of the positions they choose, and as many as there are
injections.  Searching with marks finds the same list. -/
theorem placements_enumerate_injections (hdevices : devices.Nodup) (hplaces : places.Nodup) :
    (∀ placement, placement ∈ placements devices places ↔ placement.Places devices places) ∧
      (placements devices places).Nodup ∧
      ((placements devices places).Pairwise fun placement other =>
        placement.positions devices places < other.positions devices places) ∧
      (placements devices places).length =
        (if devices.length ≤ places.length then
          places.length.factorial / (places.length - devices.length).factorial else 0) ∧
      Search.run devices places = placements devices places := by
  refine ⟨fun _ => mem_placements_iff hdevices hplaces, nodup_placements hdevices hplaces,
    lexicographic_placements hdevices hplaces, ?_, Search.run_eq hdevices hplaces⟩
  rw [length_placements hplaces]
  split
  · next hfits => exact Nat.descFactorial_eq_div hfits
  · next hmore => exact Nat.descFactorial_eq_zero_iff_lt.mpr (Nat.lt_of_not_le hmore)

/-- Two devices find six placements on three places. -/
theorem placements_enumerate_two_of_three :
    (placements [⟨1⟩, ⟨0⟩] [⟨4⟩, ⟨2⟩, ⟨3⟩]).length = 6 ∧
      Search.run [⟨1⟩, ⟨0⟩] [⟨4⟩, ⟨2⟩, ⟨3⟩] = placements [⟨1⟩, ⟨0⟩] [⟨4⟩, ⟨2⟩, ⟨3⟩] := by
  obtain ⟨-, -, -, hlength, hsearched⟩ := @placements_enumerate_injections
    [⟨1⟩, ⟨0⟩] [⟨4⟩, ⟨2⟩, ⟨3⟩] (by decide) (by decide)
  exact ⟨hlength, hsearched⟩

end LabMatch
