import Mathlib
import SiteRouting.Proofs.Tree.Shape

namespace SiteRouting

/-- A table leads by name to exactly the nodes that stand `Here`, which are
those whose own entries say so. -/
structure Tabulates {α : Type} (table : List (String × Nat)) (nodes : Array α) (Here : α → Prop)
    (name : α → String) : Prop where
  nodup : (table.map (·.1)).Nodup
  lookup_iff : ∀ key id, table.lookup key = some id ↔
    ∃ node, nodes[id]? = some node ∧ Here node ∧ name node = key

theorem mem_of_lookup {κ β : Type} [BEq κ] [LawfulBEq κ] {table : List (κ × β)} {key : κ} {value : β}
    (found : table.lookup key = some value) : (key, value) ∈ table := by
  obtain ⟨before, after, rfl, _⟩ := List.lookup_eq_some_iff.mp found
  exact List.mem_append_right before List.mem_cons_self

theorem nodup_keys_append {κ β : Type} [BEq κ] [LawfulBEq κ] {table : List (κ × β)} {key : κ}
    (nodup : (table.map (·.1)).Nodup) (free : table.lookup key = none) (value : β) :
    ((table ++ [(key, value)]).map (·.1)).Nodup := by
  rw [List.map_append, List.nodup_append]
  refine ⟨nodup, by simp, ?_⟩
  intro old inTable new isNew same
  obtain ⟨entry, member, rfl⟩ := List.mem_map.mp inTable
  have differs := List.lookup_eq_none_iff.mp free entry member
  rw [List.map_singleton, List.mem_singleton] at isNew
  simp [same, isNew] at differs

theorem lookup_append_eq_some_iff {κ β : Type} [BEq κ] [LawfulBEq κ] {table : List (κ × β)}
    {key last : κ} {value found : β} :
    (table ++ [(last, value)]).lookup key = some found ↔ table.lookup key = some found ∨
      table.lookup key = none ∧ last = key ∧ value = found := by
  rw [List.lookup_append, Option.or_eq_some_iff, List.lookup_cons]
  cases same : key == last with
  | true =>
    have named : last = key := (beq_iff_eq.mp same).symm
    simp [named]
  | false => simp [(ne_of_beq_false same).symm]

section Tabulates

variable {α : Type} {table : List (String × Nat)} {nodes : Array α} {Here : α → Prop}
  {name : α → String} {new : α}

theorem Tabulates.nil (nobody : ∀ (id : Nat) (node : α), nodes[id]? = some node → ¬ Here node) :
    Tabulates [] nodes Here name where
  nodup := List.nodup_nil
  lookup_iff key id := by
    constructor
    · intro found
      cases found
    · rintro ⟨node, held, here, _⟩
      exact absurd here (nobody id node held)

theorem Tabulates.push (tabulates : Tabulates table nodes Here name) (elsewhere : ¬ Here new) :
    Tabulates table (nodes.push new) Here name where
  nodup := tabulates.nodup
  lookup_iff key id := by
    rw [tabulates.lookup_iff]
    constructor
    · rintro ⟨node, held, here⟩
      exact ⟨node, getElem?_push_eq_some_iff.mpr (Or.inl held), here⟩
    · rintro ⟨node, held, here⟩
      rcases getElem?_push_eq_some_iff.mp held with old | ⟨_, rfl⟩
      · exact ⟨node, old, here⟩
      · exact absurd here.1 elsewhere

/-- A node that stands here gets an entry under its name, which has to be free. -/
theorem Tabulates.append (tabulates : Tabulates table nodes Here name) (here : Here new)
    (free : table.lookup (name new) = none) :
    Tabulates (table ++ [(name new, nodes.size)]) (nodes.push new) Here name where
  nodup := nodup_keys_append tabulates.nodup free nodes.size
  lookup_iff key id := by
    rw [lookup_append_eq_some_iff, tabulates.lookup_iff]
    constructor
    · rintro (⟨node, held, there⟩ | ⟨_, named, rfl⟩)
      · exact ⟨node, getElem?_push_eq_some_iff.mpr (Or.inl held), there⟩
      · exact ⟨new, getElem?_push_eq_some_iff.mpr (Or.inr ⟨rfl, rfl⟩), here, named⟩
    · rintro ⟨node, held, there, rfl⟩
      rcases getElem?_push_eq_some_iff.mp held with old | ⟨rfl, rfl⟩
      · exact Or.inl ⟨node, old, there, rfl⟩
      · exact Or.inr ⟨free, rfl, rfl⟩

/-- No entry of a table is hidden behind another one, so each of them
leads to a node. -/
theorem Tabulates.lt_size (tabulates : Tabulates table nodes Here name) {entry : String × Nat}
    (member : entry ∈ table) : entry.2 < nodes.size := by
  obtain ⟨before, after, rfl⟩ := List.append_of_mem member
  have nodup := tabulates.nodup
  rw [List.map_append, List.nodup_append] at nodup
  have found : (before ++ entry :: after).lookup entry.1 = some entry.2 := by
    refine List.lookup_eq_some_iff.mpr ⟨before, after, rfl, ?_⟩
    intro other earlier
    refine bne_iff_ne.mpr fun same => ?_
    exact nodup.2.2 other.1 (List.mem_map_of_mem earlier) entry.1 (by simp) same.symm
  obtain ⟨node, held, _⟩ := (tabulates.lookup_iff entry.1 entry.2).mp found
  exact (Array.getElem?_eq_some_iff.mp held).1

end Tabulates

theorem getElem?_modify_eq_some {α : Type} {nodes : Array α} {change : α → α} {node : α} {i j : Nat}
    (held : (nodes.modify i change)[j]? = some node) :
    ∃ old, nodes[j]? = some old ∧ (i = j ∧ node = change old ∨ i ≠ j ∧ node = old) := by
  rw [Array.getElem?_modify] at held
  split at held
  · rename_i here
    obtain ⟨old, inPlace, rfl⟩ := Option.map_eq_some_iff.mp held
    exact ⟨old, inPlace, Or.inl ⟨here, rfl⟩⟩
  · rename_i elsewhere
    exact ⟨node, held, Or.inr ⟨elsewhere, rfl⟩⟩

section Arena

variable {α : Type} {nodes : Array α} {bare link : α → α} {children : α → List (String × Nat)}
  {parent : α → Option Nat} {name : α → String} {new : α}

/-- In an arena the children of every node are exactly the nodes that
name it as their parent. -/
def ChildrenTabulated (bare : α → α) (children : α → List (String × Nat)) (parent : α → Option Nat)
    (name : α → String) (nodes : Array α) : Prop :=
  ∀ (id : Nat) (node : α), nodes[id]? = some node →
    Tabulates (children node) (nodes.map bare) (fun child => parent child = some id) name

def Childless (bare : α → α) (parent : α → Option Nat) (nodes : Array α) (id : Nat) : Prop :=
  ∀ (other : Nat) (node : α), (nodes.map bare)[other]? = some node → parent node ≠ some id

theorem ChildrenTabulated.modify {id : Nat}
    (tabulated : ChildrenTabulated bare children parent name nodes)
    (same : ∀ node, bare (link node) = bare node)
    (unlinked : ∀ node, children (link node) = children node) :
    ChildrenTabulated bare children parent name (nodes.modify id link) := by
  intro other node held
  rw [map_modify_eq_map same]
  obtain ⟨old, inPlace, ⟨_, rfl⟩ | ⟨_, rfl⟩⟩ := getElem?_modify_eq_some held
  · rw [unlinked]
    exact tabulated other old inPlace
  · exact tabulated other _ inPlace

theorem ChildrenTabulated.pushRoot (tabulated : ChildrenTabulated bare children parent name nodes)
    (root : parent (bare new) = none) (no_links : children new = [])
    (childless : Childless bare parent (nodes.push new) nodes.size) :
    ChildrenTabulated bare children parent name (nodes.push new) := by
  intro id node held
  rcases getElem?_push_eq_some_iff.mp held with old | ⟨rfl, rfl⟩
  · rw [Array.map_push]
    exact (tabulated id node old).push (by rw [root]; exact nofun)
  · rw [no_links]
    exact Tabulates.nil childless

theorem ChildrenTabulated.pushChild {above : Nat}
    (tabulated : ChildrenTabulated bare children parent name nodes)
    (below : parent (bare new) = some above) (no_links : children new = [])
    (free : ∀ node, nodes[above]? = some node → (children node).lookup (name (bare new)) = none)
    (same : ∀ node, bare (link node) = bare node)
    (linked : ∀ node, children (link node) = children node ++ [(name (bare new), nodes.size)])
    (childless : Childless bare parent ((nodes.modify above link).push new) nodes.size) :
    ChildrenTabulated bare children parent name ((nodes.modify above link).push new) := by
  have kept : ((nodes.modify above link).push new).map bare = (nodes.map bare).push (bare new) := by
    rw [Array.map_push, map_modify_eq_map same]
  intro id node held
  rcases getElem?_push_eq_some_iff.mp held with inModified | ⟨last, rfl⟩
  · rw [kept]
    obtain ⟨old, inPlace, ⟨rfl, rfl⟩ | ⟨elsewhere, rfl⟩⟩ := getElem?_modify_eq_some inModified
    · have size : (nodes.map bare).size = nodes.size := Array.size_map
      rw [linked, ← size]
      exact (tabulated _ old inPlace).append below (free old inPlace)
    · refine (tabulated id _ inPlace).push ?_
      rw [below, Option.some.injEq]
      exact elsewhere
  · rw [no_links, last, Array.size_modify]
    exact Tabulates.nil childless

end Arena

/-- The roots of groups and the children of nodes are exactly the nodes that
name them as the place where they stand. -/
structure HostingTree.Linked (tree : HostingTree) : Prop where
  roots : ∀ (i : Nat) (group : HostGroup), tree.groups[i]? = some group →
    Tabulates group.roots tree.unlinked.hosts
      (fun host => host.parent = none ∧ host.group = group.name) (·.name)
  hosts : ChildrenTabulated VirtualHost.unlinked (·.children) (·.parent) (·.name) tree.hosts
  mounts : ChildrenTabulated Mount.unlinked (·.children) (·.parent) (·.name) tree.mounts

section Growth

variable {tree after : HostingTree}

/-- Nobody stands below a place that is not there, nor below the last one. -/
theorem HostingTree.Shaped.no_child_host (shaped : tree.Shaped) {id parent : Nat} {host : VirtualHost}
    (held : tree.hosts[id]? = some host) (beyond : tree.hosts.size ≤ parent + 1) :
    host.parent ≠ some parent := by
  intro below
  have before := ((shaped.hosts id host held).below parent below).1
  have bound := (Array.getElem?_eq_some_iff.mp held).1
  omega

theorem HostingTree.Shaped.no_child_mount (shaped : tree.Shaped) {id parent : Nat} {mount : Mount}
    (held : tree.mounts[id]? = some mount) (beyond : tree.mounts.size ≤ parent + 1) :
    mount.parent ≠ some parent := by
  intro below
  have before := ((shaped.mounts id mount held).below parent below).1
  have bound := (Array.getElem?_eq_some_iff.mp held).1
  omega

theorem HostingTree.linked_empty : HostingTree.Linked {} := by
  constructor <;> simp [ChildrenTabulated]

theorem HostingTree.Linked.addGroup {name : String} {cmsLocation : Option String}
    (linked : tree.Linked) (shaped : tree.unlinked.Shaped)
    (added : tree.addGroup name cmsLocation = .ok after) : after.Linked := by
  have bare := HostingTree.unlinked_addGroup added
  obtain ⟨free, rfl⟩ := HostingTree.addGroup_eq_ok.mp added
  refine ⟨?_, linked.hosts, linked.mounts⟩
  intro i group held
  rw [bare]
  rcases getElem?_push_eq_some_iff.mp held with old | ⟨_, rfl⟩
  · exact linked.roots i group old
  · refine Tabulates.nil ?_
    rintro id host inTree ⟨_, same⟩
    obtain ⟨j, unlinkedGroup, inGroups, named⟩ := (shaped.hosts id host inTree).grouped
    obtain ⟨other, inPlace, rfl⟩ := HostingTree.exists_group inGroups
    rw [HostingTree.group?, Array.find?_eq_none] at free
    exact free other (Array.mem_of_getElem? inPlace) (beq_iff_eq.mpr (named.trans same))

theorem HostingTree.Linked.addPortMount {host : HostId} {entry : PortMount} (linked : tree.Linked)
    (added : tree.addPortMount host entry = .ok after) : after.Linked := by
  have bare := HostingTree.unlinked_addPortMount added
  have hosts := congrArg HostingTree.hosts bare
  obtain ⟨_, rfl⟩ := HostingTree.addPortMount_eq_ok.mp added
  refine ⟨?_, linked.hosts.modify (fun _ => rfl) (fun _ => rfl), linked.mounts⟩
  rw [hosts]
  exact linked.roots

theorem HostingTree.Linked.addRootHost {place : GroupPlace} {host new : VirtualHost}
    (linked : tree.Linked) (shaped : tree.unlinked.Shaped) (kept : after.unlinked.Shaped)
    (held : tree.HoldsGroup place) (no_links : host.children = []) (grouped : host.group = place.name)
    (added : tree.addHost place.position none host = .ok (after, new)) : after.Linked := by
  obtain ⟨same, bare⟩ := HostingTree.unlinked_addHost added
  obtain ⟨free, _, rfl⟩ := HostingTree.addRootHost_eq_ok.mp added
  have hosts := congrArg HostingTree.hosts bare
  have top : new.unlinked.parent = none := by rw [same]; rfl
  have group : new.unlinked.group = place.name := by rw [same]; exact grouped
  have name : new.unlinked.name = host.name := by rw [same]; rfl
  refine ⟨?_, ?_, linked.mounts⟩
  -- Only the group at the place gets an entry, and no other group has its name.
  · intro i current inGroups
    rw [hosts]
    obtain ⟨old, inPlace, ⟨rfl, rfl⟩ | ⟨elsewhere, rfl⟩⟩ := getElem?_modify_eq_some inGroups
    · have placed := HostingTree.unlinked_group inPlace
      rw [held] at placed
      have named : place.name = old.name := congrArg HostGroup.name (Option.some.inj placed)
      have size : tree.unlinked.hosts.size = tree.hosts.size := Array.size_map
      rw [inPlace, Option.bind_some] at free
      rw [← name, ← size]
      exact (linked.roots _ old inPlace).append ⟨top, group.trans named⟩ (name ▸ free)
    · refine (linked.roots i _ inPlace).push ?_
      rintro ⟨_, here⟩
      refine elsewhere (shaped.names _ i _ _ held (HostingTree.unlinked_group inPlace) ?_)
      exact group.symm.trans here
  · refine linked.hosts.pushRoot top (by rw [same]; exact no_links) ?_
    intro id other inTree
    exact kept.no_child_host inTree (by simp [HostingTree.unlinked])

theorem HostingTree.Linked.addChildHost {position : Nat} {parent : HostId} {host new : VirtualHost}
    (linked : tree.Linked) (kept : after.unlinked.Shaped) (no_links : host.children = [])
    (added : tree.addHost position (some parent) host = .ok (after, new)) : after.Linked := by
  obtain ⟨same, bare⟩ := HostingTree.unlinked_addHost added
  obtain ⟨free, _, rfl⟩ := HostingTree.addChildHost_eq_ok.mp added
  have hosts := congrArg HostingTree.hosts bare
  have below : new.unlinked.parent = some parent := by rw [same]; rfl
  have name : new.unlinked.name = host.name := by rw [same]; rfl
  refine ⟨?_, ?_, linked.mounts⟩
  · intro i group inGroups
    rw [hosts]
    refine (linked.roots i group inGroups).push ?_
    rw [below]
    exact nofun
  · refine linked.hosts.pushChild below (by rw [same]; exact no_links) ?_ (fun _ => rfl)
      (fun _ => by rw [name]) ?_
    · intro above inTree
      rw [HostingTree.host?, inTree] at free
      exact name ▸ free
    · intro id other inTree
      exact kept.no_child_host inTree (by simp [HostingTree.unlinked])

theorem HostingTree.Linked.addRootMount {mount new : Mount} (linked : tree.Linked)
    (kept : after.unlinked.Shaped) (no_links : mount.children = [])
    (added : tree.addMount none mount = .ok (after, new)) : after.Linked := by
  obtain ⟨same, bare⟩ := HostingTree.unlinked_addMount added
  obtain ⟨_, rfl⟩ := HostingTree.addRootMount_eq_ok.mp added
  have top : new.unlinked.parent = none := by rw [same]; rfl
  refine ⟨linked.roots, linked.hosts, ?_⟩
  refine linked.mounts.pushRoot top (by rw [same]; exact no_links) ?_
  intro id other inTree
  exact kept.no_child_mount inTree (by simp [HostingTree.unlinked])

theorem HostingTree.Linked.addChildMount {parent : MountId} {mount new : Mount} (linked : tree.Linked)
    (kept : after.unlinked.Shaped) (no_links : mount.children = [])
    (added : tree.addMount (some parent) mount = .ok (after, new)) : after.Linked := by
  obtain ⟨same, bare⟩ := HostingTree.unlinked_addMount added
  obtain ⟨free, _, rfl⟩ := HostingTree.addChildMount_eq_ok.mp added
  have below : new.unlinked.parent = some parent := by rw [same]; rfl
  have name : new.unlinked.name = mount.name := by rw [same]; rfl
  refine ⟨linked.roots, linked.hosts, ?_⟩
  refine linked.mounts.pushChild below (by rw [same]; exact no_links) ?_ (fun _ => rfl)
    (fun _ => by rw [name]) ?_
  · intro above inTree
    rw [HostingTree.mount?, inTree] at free
    exact name ▸ free
  · intro id other inTree
    exact kept.no_child_mount inTree (by simp [HostingTree.unlinked])

theorem HostingTree.Linked.addHost {place : GroupPlace} {parent : Option VirtualHost} {label : String}
    {properties : NodeProperties} {new : VirtualHost} (linked : tree.Linked)
    (shaped : tree.unlinked.Shaped) (held : tree.HoldsHostPlace place parent)
    (added : tree.addHost place.position (parent.map (·.id))
      (.detached label parent place.name place.cmsLocation properties) = .ok (after, new)) :
    after.Linked := by
  have kept := shaped.addHost held added
  cases parent with
  | none => exact linked.addRootHost shaped kept held.group rfl rfl added
  | some above => exact linked.addChildHost kept rfl added

theorem HostingTree.Linked.addMount {place : MountPlace} {own : MountSettings}
    {properties : MountProperties} {content : ContentPaths} {new : Mount} (linked : tree.Linked)
    (shaped : tree.unlinked.Shaped) (held : tree.HoldsMountPlace place)
    (added : tree.addMount (place.parent.map (·.id)) (place.detachedMount own properties content) =
      .ok (after, new)) : after.Linked := by
  have kept := shaped.addMount held added
  cases parent : place.parent with
  | none =>
    rw [parent] at added
    exact linked.addRootMount kept rfl added
  | some above =>
    rw [parent] at added
    exact linked.addChildMount kept rfl added

end Growth

end SiteRouting
