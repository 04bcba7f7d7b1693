import Mathlib
import SiteRouting.Proofs.Lookup.LongestSuffix
import SiteRouting.Proofs.Tree.AtomicGrowth
import SiteRouting.Proofs.Tree.StoppedWalks

namespace SiteRouting

section Growth

variable {tree after : HostingTree} {call : Growth} {id : HostId} {host now : VirtualHost}

theorem Growth.Attaches.map_id (attaches : call.Attaches tree after) (id : HostId) :
    (after.host? id).map (·.id) = ((call.pushed tree).host? id).map (·.id) := by
  have same := congrArg (fun bare : HostingTree => bare.hosts[id]?.map (·.id)) attaches.nodes
  simpa [HostingTree.unlinked, HostingTree.host?, Function.comp_def, VirtualHost.unlinked] using same

theorem Growth.Attaches.exists_pushed (attaches : call.Attaches tree after)
    (held : after.host? id = some now) :
    ∃ host, (call.pushed tree).host? id = some host ∧ host.id = now.id := by
  have same := attaches.map_id id
  rw [held] at same
  exact Option.map_eq_some_iff.mp same.symm

theorem Growth.Attaches.exists_now (attaches : call.Attaches tree after)
    (inPushed : (call.pushed tree).host? id = some host) :
    ∃ now, after.host? id = some now ∧ now.id = host.id := by
  have same := attaches.map_id id
  rw [inPushed] at same
  exact Option.map_eq_some_iff.mp same

theorem Growth.Attaches.exists_host (attaches : call.Attaches tree after)
    (held : tree.host? id = some host) : ∃ now, after.host? id = some now ∧ now.id = host.id := by
  obtain ⟨_, hosts, _⟩ := call.pushed_keeps tree
  exact attaches.exists_now ((hosts id (Array.getElem?_eq_some_iff.mp held).1).trans held)

/-- Every place that there was leads where it led, but for the one of the call. -/
theorem Growth.Attaches.occupant?_eq (attaches : call.Attaches tree after) {place : Place}
    (within : place.Within tree) (elsewhere : call.place ≠ some place) :
    after.occupant? place = tree.occupant? place := by
  have apart (name : String) (isGroup : call.place = some (.group name)) : place ≠ .group name := by
    rintro rfl
    exact elsewhere isGroup
  rw [attaches.places, if_neg elsewhere, call.occupant?_pushed within apart]

theorem Growth.place_ne_of_occupied {place : Place} {occupant : Occupant} (free : ¬ call.Taken tree)
    (stands : tree.occupant? place = some occupant) : call.place ≠ some place := by
  intro here
  refine free ?_
  rw [Growth.Taken, here, Option.bind_some, stands, Option.isSome_some]

theorem Growth.Attaches.child?_eq (attaches : call.Attaches tree after)
    (held : tree.host? id = some host) (heldNow : after.host? id = some now) {label : String}
    (elsewhere : call.place ≠ some (.child id label)) : now.child? label = host.child? label := by
  have within : Place.Within tree (.child id label) := (Array.getElem?_eq_some_iff.mp held).1
  have same := attaches.occupant?_eq within elsewhere
  rw [HostingTree.occupant?_child held, HostingTree.occupant?_child heldNow] at same
  exact Option.map_injective (fun _ _ => Occupant.node.inj) same

theorem Growth.Attaches.childHost?_id (attaches : call.Attaches tree after) (walkable : tree.Walkable)
    (held : tree.host? id = some host) (heldNow : after.host? id = some now) {label : String}
    (elsewhere : call.place ≠ some (.child id label)) :
    (after.childHost? now label).map (·.id) = (tree.childHost? host label).map (·.id) := by
  rw [HostingTree.childHost?, HostingTree.childHost?, attaches.child?_eq held heldNow elsewhere]
  cases linked : host.child? label with
  | none => rfl
  | some child =>
    obtain ⟨node, inTree⟩ := walkable.children id host label child held linked
    obtain ⟨same, inAfter, isId⟩ := attaches.exists_host inTree
    rw [Option.bind_some, Option.bind_some, inTree, inAfter, Option.map_some, Option.map_some, isId]

/-- A walk goes on as before as long as it does not come to a place that was empty
and is not any more. A call fills one such place only, so it can only change the
answer of a walk that stopped there or takes the wildcard from there. -/
theorem Growth.Attaches.descend_id (attaches : call.Attaches tree after) (walkable : tree.Walkable)
    (free : ¬ call.Taken tree) {labels : List String} (held : tree.host? id = some host)
    (heldNow : after.host? id = some now)
    (apart : ∀ empty, tree.stopBelow? host labels = some empty →
      call.place ≠ some empty ∧ call.place ≠ some empty.wildcard) :
    (after.descend now labels).map (·.id) = (tree.descend host labels).map (·.id) := by
  induction labels generalizing id host now with
  | nil =>
    obtain ⟨same, inAfter, isId⟩ := attaches.exists_host held
    cases heldNow.symm.trans inAfter
    exact congrArg some isId
  | cons label rest ih =>
    rw [HostingTree.stopBelow?] at apart
    rw [HostingTree.descend, HostingTree.descend]
    cases linked : host.child? label with
    | none =>
      have stops := walkable.position id host held ▸ apart (.child host.id label)
      obtain ⟨notHere, notWildcard⟩ := stops (by rw [linked])
      rw [attaches.child?_eq held heldNow notHere, linked]
      exact attaches.childHost?_id walkable held heldNow notWildcard
    | some child =>
      -- the walk goes on through an occupied place, and the one that the call fills was free
      have stands : tree.occupant? (.child id label) = some (.node child) := by
        rw [HostingTree.occupant?_child held, linked, Option.map_some]
      obtain ⟨node, inTree⟩ := walkable.children id host label child held linked
      obtain ⟨same, inAfter, _⟩ := attaches.exists_host inTree
      rw [attaches.child?_eq held heldNow (Growth.place_ne_of_occupied free stands), linked]
      simp only [linked, inTree, inAfter] at apart ⊢
      exact ih inTree inAfter apart

theorem Growth.Attaches.root?_eq (attaches : call.Attaches tree after) {position : Nat}
    {group groupNow : HostGroup} (declared : tree.groups[position]? = some group)
    (declaredNow : after.groups[position]? = some groupNow) {label : String}
    (elsewhere : call.place ≠ some (.root position label)) :
    groupNow.root? label = group.root? label := by
  have within : Place.Within tree (.root position label) := (Array.getElem?_eq_some_iff.mp declared).1
  have same := attaches.occupant?_eq within elsewhere
  rw [HostingTree.occupant?_root declared, HostingTree.occupant?_root declaredNow] at same
  exact Option.map_injective (fun _ _ => Occupant.node.inj) same

/-- The labels of a request lead to the same host as before, unless the walk
stopped where the new node stands now. -/
theorem Growth.Attaches.findHost_id (attaches : call.Attaches tree after) (walkable : tree.Walkable)
    (free : ¬ call.Taken tree) {position : Nat} {group groupNow : HostGroup}
    (declared : tree.groups[position]? = some group) (declaredNow : after.groups[position]? = some groupNow)
    {labels : List String}
    (apart : ∀ empty, tree.stop? position group labels = some empty →
      call.place ≠ some empty ∧ call.place ≠ some empty.wildcard) :
    (after.findHost groupNow labels).map (·.id) = (tree.findHost group labels).map (·.id) := by
  rw [HostingTree.stop?] at apart
  rw [HostingTree.findHost, HostingTree.findHost]
  cases reversed : labels.reverse with
  | nil => rfl
  | cons last rest =>
    simp only [reversed] at apart ⊢
    cases linked : group.root? last with
    | none =>
      obtain ⟨elsewhere, _⟩ := apart (.root position last) (by rw [linked, Option.bind_none])
      rw [attaches.root?_eq declared declaredNow elsewhere, linked]
      rfl
    | some id =>
      obtain ⟨root, inTree⟩ := walkable.roots position group last id declared linked
      obtain ⟨rootNow, inAfter, _⟩ := attaches.exists_host inTree
      have stands : tree.occupant? (.root position last) = some (.node id) := by
        rw [HostingTree.occupant?_root declared, linked, Option.map_some]
      rw [attaches.root?_eq declared declaredNow (Growth.place_ne_of_occupied free stands), linked]
      simp only [linked, Option.bind_some, inTree, inAfter] at apart ⊢
      exact attaches.descend_id walkable free inTree inAfter apart

@[simp] def Growth.Bare : Growth → Prop
  | .rootHost _ host | .childHost _ host => host.children = []
  | _ => True

theorem Growth.host?_pushed (bare : call.Bare) (held : (call.pushed tree).host? id = some host) :
    tree.host? id = some host ∨ host.id = id ∧ host.children = [] := by
  cases call with
  | group | portMount | mount => exact Or.inl held
  | rootHost | childHost =>
    rcases getElem?_push_eq_some_iff.mp held with old | ⟨rfl, rfl⟩
    · exact Or.inl old
    · exact Or.inr ⟨rfl, bare⟩

theorem Growth.group?_pushed {position : Nat} {group : HostGroup}
    (declared : (call.pushed tree).groups[position]? = some group) :
    tree.groups[position]? = some group ∨ group.roots = [] := by
  cases call with
  | group =>
    rcases getElem?_push_eq_some_iff.mp declared with old | ⟨_, rfl⟩
    · exact Or.inl old
    · exact Or.inr rfl
  | rootHost | childHost | portMount | mount => exact Or.inl declared

theorem Growth.exists_occupant {place : Place} (here : call.place = some place) (ofHosts : place.OfHosts)
    (isNode : call.occupant tree = .node id) : ∃ host, (call.pushed tree).host? id = some host := by
  cases call with
  | group | portMount =>
    cases here
    exact ofHosts.elim
  | mount parent new =>
    obtain ⟨above, rfl, rfl⟩ := Option.map_eq_some_iff.mp here
    exact ofHosts.elim
  | rootHost | childHost =>
    cases isNode
    exact ⟨_, Array.getElem?_push_size⟩

/-- A link among roots or children leads to a host, whether it is the
new one or was there before. -/
theorem Growth.Attaches.exists_of_stands (attaches : call.Attaches tree after) {place : Place}
    (stands : after.occupant? place = some (.node id)) (ofHosts : place.OfHosts)
    (before : (call.pushed tree).occupant? place = some (.node id) → ∃ host, tree.host? id = some host) :
    ∃ now, after.host? id = some now := by
  rw [attaches.places] at stands
  split at stands
  · rename_i here
    obtain ⟨host, inPushed⟩ := Growth.exists_occupant here ofHosts (Option.some.inj stands)
    obtain ⟨now, inAfter, _⟩ := attaches.exists_now inPushed
    exact ⟨now, inAfter⟩
  · obtain ⟨host, inTree⟩ := before stands
    obtain ⟨now, inAfter, _⟩ := attaches.exists_host inTree
    exact ⟨now, inAfter⟩

theorem Growth.Attaches.walkable (attaches : call.Attaches tree after) (walkable : tree.Walkable)
    (bare : call.Bare) : after.Walkable where
  position id now held := by
    obtain ⟨host, inPushed, isId⟩ := attaches.exists_pushed held
    rcases Growth.host?_pushed bare inPushed with old | ⟨new, _⟩
    · exact isId.symm.trans (walkable.position id host old)
    · exact isId.symm.trans new
  roots position groupNow label id declaredNow linked := by
    have stands : after.occupant? (.root position label) = some (.node id) := by
      rw [HostingTree.occupant?_root declaredNow, linked, Option.map_some]
    refine attaches.exists_of_stands stands trivial fun before => ?_
    obtain ⟨_, found, ⟨⟩⟩ := Option.map_eq_some_iff.mp before
    obtain ⟨group, declared, leads⟩ := Option.bind_eq_some_iff.mp found
    rcases Growth.group?_pushed declared with old | rootless
    · exact walkable.roots position group label id old leads
    · rw [HostGroup.root?, rootless] at leads
      cases leads
  children id now label child heldNow linked := by
    have stands : after.occupant? (.child id label) = some (.node child) := by
      rw [HostingTree.occupant?_child heldNow, linked, Option.map_some]
    refine attaches.exists_of_stands stands trivial fun before => ?_
    obtain ⟨_, found, ⟨⟩⟩ := Option.map_eq_some_iff.mp before
    obtain ⟨host, inPushed, leads⟩ := Option.bind_eq_some_iff.mp found
    rcases Growth.host?_pushed bare inPushed with old | ⟨_, childless⟩
    · exact walkable.children id host label child old leads
    · rw [VirtualHost.child?, childless] at leads
      cases leads

end Growth

/-- The trees that calls make of the empty one: each call has a parent that
is there, and a new host has no children yet. -/
inductive HostingTree.Grown : HostingTree → Prop
  | empty : Grown {}
  | grow {tree after : HostingTree} {call : Growth} {occupant : Occupant} : tree.Grown →
      call.Valid tree → call.Bare → call.perform.run tree = .ok occupant after → after.Grown

/-- Walks do not fall out of a tree at any time while it grows, since no call
breaks a link or adds one that leads nowhere. -/
theorem HostingTree.Grown.walkable {tree : HostingTree} (grown : tree.Grown) : tree.Walkable := by
  induction grown with
  | empty => constructor <;> simp [HostingTree.host?]
  | @grow tree after call occupant _ valid bare done ih =>
    rw [Growth.perform_run] at done
    split at done
    · cases done
    · rename_i free
      cases done
      exact (Growth.attaches_grown valid free).walkable ih bare

theorem Growth.Attaches.exists_group {tree after : HostingTree} {call : Growth}
    (attaches : call.Attaches tree after) {position : Nat} {group : HostGroup}
    (declared : tree.groups[position]? = some group) :
    ∃ groupNow, after.groups[position]? = some groupNow := by
  have kept := (call.pushed_keeps tree).1 position (Array.getElem?_eq_some_iff.mp declared).1
  have bare := HostingTree.unlinked_group (kept.trans declared)
  rw [← attaches.nodes] at bare
  obtain ⟨groupNow, inAfter, _⟩ := HostingTree.exists_group bare
  exact ⟨groupNow, inAfter⟩

/-- Growth is all or nothing. A call whose parent is in the tree fails exactly if
a sibling has its name or port, with the fault for that, and then the tree is as
it was. Otherwise the tree has grown by what the call adds and by nothing else,
and the labels of a request lead to the same host as before, unless their walk
stopped at the place that the call fills or takes the wildcard that it adds. -/
theorem HostingTree.Walkable.perform_atomic {tree : HostingTree} (walkable : tree.Walkable) {call : Growth}
    (valid : call.Valid tree) :
    ((∃ fault left, call.perform.run tree = .error fault left) ↔ call.Taken tree) ∧
    (call.Taken tree → call.perform.run tree = .error (call.fault tree) tree) ∧
    (¬ call.Taken tree → ∃ after, call.perform.run tree = .ok (call.occupant tree) after ∧
      call.Attaches tree after ∧
      ∀ (position : Nat) (group : HostGroup), tree.groups[position]? = some group →
        ∃ groupNow, after.groups[position]? = some groupNow ∧ ∀ labels,
          (∀ empty, tree.stop? position group labels = some empty →
            call.place ≠ some empty ∧ call.place ≠ some empty.wildcard) →
          (after.findHost groupNow labels).map (·.id) = (tree.findHost group labels).map (·.id)) ∧
    (call.Made tree → call.perform.run tree = InPlace.outcome tree (call.apply tree)) := by
  refine ⟨?_, fun taken => ?_, fun free => ?_, Growth.perform_run_eq⟩
  · rw [Growth.perform_run]
    split
    · rename_i taken
      exact ⟨fun _ => taken, fun _ => ⟨_, _, rfl⟩⟩
    · rename_i free
      exact ⟨fun ⟨_, _, failed⟩ => (nomatch failed), fun taken => absurd taken free⟩
  · rw [Growth.perform_run, if_pos taken]
  · have attaches := Growth.attaches_grown valid free
    refine ⟨call.grown tree, by rw [Growth.perform_run, if_neg free], attaches, ?_⟩
    intro position group declared
    obtain ⟨groupNow, declaredNow⟩ := attaches.exists_group declared
    refine ⟨groupNow, declaredNow, fun labels apart => ?_⟩
    exact attaches.findHost_id walkable free declared declaredNow apart

def exampleHost (label : String) : VirtualHost where
  id := 0
  name := label
  hostName := s!"{label}.example.com"
  group := "prod"
  cmsLocation := none
  properties := ({} : Defaults).properties

theorem wildcardSite_grows :
    ∃ registry group after groupNow, wildcardSite.build .lenient 1 = .ok registry ∧
      registry.tree.groups[0]? = some group ∧ after.groups[0]? = some groupNow ∧
      (Growth.childHost 1 (exampleHost "www")).perform.run registry.tree =
        .error (.duplicateHost "prod" "www.example.com") registry.tree ∧
      (Growth.childHost 1 (exampleHost "shop")).perform.run registry.tree = .ok (.node 7) after ∧
      (Growth.childHost 1 (exampleHost "shop")).perform.run registry.tree =
        InPlace.outcome registry.tree ((Growth.childHost 1 (exampleHost "shop")).apply registry.tree) ∧
      after.occupant? (.child 1 "shop") = some (.node 7) ∧
      registry.tree.stop? 0 group ["eu", "www", "example", "com"] = some (.child 2 "eu") ∧
      (after.findHost groupNow ["eu", "www", "example", "com"]).map (·.id) =
        (registry.tree.findHost group ["eu", "www", "example", "com"]).map (·.id) := by
  have shown : (wildcardSite.build .lenient 1).toOption.map (fun registry =>
      (registry.tree.hosts.size, registry.tree.occupant? (.child 1 "www"),
        registry.tree.occupant? (.child 1 "shop"), registry.tree.groups[0]?.map fun group =>
          registry.tree.stop? 0 group ["eu", "www", "example", "com"])) =
      some (7, some (.node 2), none, some (some (.child 2 "eu"))) := by decide +kernel
  obtain ⟨registry, built, viewed⟩ := Configuration.build_of_view shown
  simp only [Prod.mk.injEq] at viewed
  obtain ⟨size, www, shop, stops⟩ := viewed
  obtain ⟨group, declared, stopped⟩ := Option.map_eq_some_iff.mp stops
  have walkable := (Configuration.build_named built).1.walkable
  have valid (label : String) : (Growth.childHost 1 (exampleHost label)).Valid registry.tree := by
    rintro _ ⟨⟩
    exact lt_of_lt_of_eq (by decide) size.symm
  have taken : (Growth.childHost 1 (exampleHost "www")).Taken registry.tree :=
    Option.isSome_of_eq_some www
  have free : ¬ (Growth.childHost 1 (exampleHost "shop")).Taken registry.tree :=
    Option.not_isSome_iff_eq_none.mpr shop
  have refused := (walkable.perform_atomic (valid "www")).2.1 taken
  obtain ⟨after, done, attaches, answers⟩ := (walkable.perform_atomic (valid "shop")).2.2.1 free
  obtain ⟨groupNow, declaredNow, same⟩ := answers 0 group declared
  have isNew : (Growth.childHost 1 (exampleHost "shop")).occupant registry.tree = .node 7 :=
    congrArg Occupant.node size
  have likewise := (walkable.perform_atomic (valid "shop")).2.2.2 trivial
  refine ⟨registry, group, after, groupNow, built, declared, declaredNow, refused, isNew ▸ done, likewise,
    ?_, stopped, ?_⟩
  · rw [attaches.places, isNew]
    exact if_pos rfl
  · refine same _ fun empty stoppedHere => ?_
    cases stopped.symm.trans stoppedHere
    exact ⟨by decide, by decide⟩

end SiteRouting
