import Mathlib
import SiteRouting.Proofs.Tree.InPlace

namespace SiteRouting

/-- A tree has grown by what a call adds and by nothing else. Its node stands
behind the others, one place that was empty leads to it, and all else is as
it was: apart from the links the nodes are the old ones and the new one, and
every place but the one of the call leads where it led. -/
structure Growth.Attaches (call : Growth) (tree after : HostingTree) : Prop where
  nodes : after.unlinked = (call.pushed tree).unlinked
  places : ∀ place, after.occupant? place =
    if call.place = some place then some (call.occupant tree) else (call.pushed tree).occupant? place

theorem push_modify {α : Type} {nodes : Array α} {change : α → α} {p : Nat} (inRange : p < nodes.size)
    (new : α) : (nodes.push new).modify p change = (nodes.modify p change).push new := by
  ext i
  · simp
  · rename_i before _
    rw [Array.size_modify, Array.size_push] at before
    simp only [Array.getElem_modify, Array.getElem_push, Array.size_modify]
    grind

section Attached

variable {tree : HostingTree} {place : Place} {link : Link}

/-- A new node stands behind the others and moves none of them. -/
theorem Growth.pushed_keeps (call : Growth) (tree : HostingTree) :
    (∀ i < tree.groups.size, (call.pushed tree).groups[i]? = tree.groups[i]?) ∧
    (∀ i < tree.hosts.size, (call.pushed tree).hosts[i]? = tree.hosts[i]?) ∧
    (∀ i < tree.mounts.size, (call.pushed tree).mounts[i]? = tree.mounts[i]?) := by
  have kept {α : Type} (nodes : Array α) (new : α) : ∀ i < nodes.size, (nodes.push new)[i]? = nodes[i]? :=
    fun i before => by rw [Array.getElem?_push, if_neg before.ne]
  cases call with
  | group => exact ⟨kept _ _, fun _ _ => rfl, fun _ _ => rfl⟩
  | rootHost | childHost => exact ⟨fun _ _ => rfl, kept _ _, fun _ _ => rfl⟩
  | portMount => exact ⟨fun _ _ => rfl, fun _ _ => rfl, fun _ _ => rfl⟩
  | mount => exact ⟨fun _ _ => rfl, fun _ _ => rfl, kept _ _⟩

theorem Growth.within_pushed (call : Growth) (within : place.Within tree) :
    place.Within (call.pushed tree) := by
  obtain ⟨groups, hosts, mounts⟩ := call.pushed_keeps tree
  have stays {α : Type} {before after : Array α} {i : Nat} (inRange : i < before.size)
      (kept : ∀ i < before.size, after[i]? = before[i]?) : i < after.size := by
    have same := kept i inRange
    rw [Array.getElem?_eq_getElem inRange] at same
    exact (Array.getElem?_eq_some_iff.mp same).1
  cases place with
  | group => exact within
  | root => exact stays within groups
  | child | port => exact stays within hosts
  | mount => exact stays within mounts

/-- A new node without a link makes no difference to the places that there
were. Only a group is found without one. -/
theorem Growth.occupant?_pushed (call : Growth) (within : place.Within tree)
    (apart : ∀ name, call.place = some (.group name) → place ≠ .group name) :
    (call.pushed tree).occupant? place = tree.occupant? place := by
  obtain ⟨groups, hosts, mounts⟩ := call.pushed_keeps tree
  cases place with
  | group name =>
    cases call with
    | group new =>
      have other : new ≠ name := fun same => apart new rfl (congrArg Place.group same.symm)
      simp [HostingTree.occupant?, HostingTree.pushGroup, Array.findIdx?_push, other]
    | rootHost | childHost | portMount | mount => rfl
  | root position => rw [HostingTree.occupant?, groups position within, HostingTree.occupant?]
  | child id | port id =>
    rw [HostingTree.occupant?, HostingTree.host?, hosts id within, HostingTree.occupant?, HostingTree.host?]
  | mount id =>
    rw [HostingTree.occupant?, HostingTree.mount?, mounts id within, HostingTree.occupant?, HostingTree.mount?]

/-- It makes no difference which of the two is written first, the node
or the link. -/
theorem Growth.pushed_link (call : Growth) (within : link.place.Within tree) :
    call.pushed (tree.link link) = (call.pushed tree).link link := by
  cases call <;> cases link <;>
    simp_all [HostingTree.pushGroup, HostingTree.pushHost, HostingTree.pushMount, HostingTree.link,
      Link.place, Place.Within, push_modify]

/-- A link stands at the place of its call and leads to what the call adds. -/
theorem Growth.place_link {call : Growth} (linked : call.link? tree = some link) :
    call.place = some link.place ∧ call.occupant tree = link.occupant := by
  cases call with
  | group => cases linked
  | rootHost | childHost | portMount =>
    cases linked
    exact ⟨rfl, rfl⟩
  | mount parent new =>
    obtain ⟨above, rfl, rfl⟩ := Option.map_eq_some_iff.mp linked
    exact ⟨rfl, rfl⟩

theorem Link.place_ne_group (link : Link) (name : String) : link.place ≠ .group name := by
  cases link <;> exact nofun

/-- Without a link it is the node itself that counts: a group is found by its
name, the root of a mount tree nowhere yet. -/
theorem Growth.occupant?_pushed_of_unlinked {call : Growth} (free : ¬ call.Taken tree)
    (unlinked : call.link? tree = none) (place : Place) :
    (call.pushed tree).occupant? place =
      if call.place = some place then some (call.occupant tree) else (call.pushed tree).occupant? place := by
  split
  · rename_i here
    cases call with
    | group name cmsLocation =>
      cases here
      rw [Growth.Taken, Growth.place, Option.bind_some, Option.not_isSome_iff_eq_none] at free
      have missing := Option.map_eq_none_iff.mp free
      simp [HostingTree.occupant?, HostingTree.pushGroup, Array.findIdx?_push, missing]
    | rootHost | childHost | portMount => cases unlinked
    | mount parent new =>
      rw [Growth.link?, Option.map_eq_none_iff] at unlinked
      subst unlinked
      cases here
  · rfl

/-- A call that finds its place free adds what it should, there and
nowhere else. -/
theorem Growth.attaches_grown {call : Growth} (valid : call.Valid tree) (free : ¬ call.Taken tree) :
    call.Attaches tree (call.grown tree) := by
  unfold Growth.grown
  cases linked : call.link? tree with
  | none => exact ⟨rfl, call.occupant?_pushed_of_unlinked free linked⟩
  | some link =>
    obtain ⟨isPlace, isOccupant⟩ := Growth.place_link linked
    have within := valid link.place isPlace
    rw [Growth.Taken, isPlace, Option.bind_some, Option.not_isSome_iff_eq_none] at free
    have freeToo : (call.pushed tree).occupant? link.place = none :=
      (call.occupant?_pushed within fun name _ => link.place_ne_group name).trans free
    dsimp only
    -- the calls write the link first, but where it leads is read off the tree that has the node
    rw [call.pushed_link within]
    refine ⟨HostingTree.unlinked_link _ link, fun place => ?_⟩
    rw [HostingTree.occupant?_link (call.within_pushed within) freeToo, isPlace, isOccupant]
    simp only [Option.some.injEq]

end Attached

end SiteRouting
