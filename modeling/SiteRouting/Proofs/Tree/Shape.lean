import Mathlib
import SiteRouting.Proofs.Tree.Skeleton

namespace SiteRouting

/-- A host at a position: its group is there, and its name continues the one
of its parent, which stands before it. -/
structure HostingTree.HostShaped (tree : HostingTree) (id : Nat) (host : VirtualHost) : Prop where
  position : host.id = id
  grouped : ∃ (i : Nat) (group : HostGroup), tree.groups[i]? = some group ∧ group.name = host.group
  top : host.parent = none → host.hostName = host.name
  below : ∀ parent : Nat, host.parent = some parent → parent < id ∧ ∃ above,
    tree.hosts[parent]? = some above ∧ host.hostName = s!"{host.name}.{above.hostName}" ∧
    host.group = above.group

/-- A mount at a position: its host is there, and its path continues the one of
its parent, which stands before it and belongs to the same host and port. -/
structure HostingTree.MountShaped (tree : HostingTree) (id : Nat) (mount : Mount) : Prop where
  position : mount.id = id
  hosted : ∃ host, tree.hosts[mount.host]? = some host ∧ mount.group = host.group
  top : mount.parent = none → mount.mountPath = ""
  below : ∀ parent : Nat, mount.parent = some parent → parent < id ∧ ∃ above,
    tree.mounts[parent]? = some above ∧ mount.mountPath = s!"{above.mountPath}/{mount.name}" ∧
    mount.host = above.host ∧ mount.group = above.group ∧ mount.port = above.port

/-- Every node has its shape, and no two groups share a name. A shape is a
matter of positions, parents and the names that follow from them, and of
nothing that a link could change. -/
structure HostingTree.Shaped (tree : HostingTree) : Prop where
  names : ∀ (i j : Nat) (a b : HostGroup), tree.groups[i]? = some a → tree.groups[j]? = some b →
    a.name = b.name → i = j
  hosts : ∀ id host, tree.hosts[id]? = some host → tree.HostShaped id host
  mounts : ∀ id mount, tree.mounts[id]? = some mount → tree.MountShaped id mount

section Grown

variable {tree after : HostingTree}

theorem HostingTree.HostShaped.extends {id : HostId} {host : VirtualHost}
    (shaped : tree.unlinked.HostShaped id host) (grown : after.Extends tree) :
    after.unlinked.HostShaped id host where
  position := shaped.position
  grouped := by
    obtain ⟨i, group, held, name⟩ := shaped.grouped
    exact ⟨i, group, grown.groups held, name⟩
  top := shaped.top
  below parent same := by
    obtain ⟨before, above, held, names⟩ := shaped.below parent same
    exact ⟨before, above, grown.hosts held, names⟩

theorem HostingTree.MountShaped.extends {id : MountId} {mount : Mount}
    (shaped : tree.unlinked.MountShaped id mount) (grown : after.Extends tree) :
    after.unlinked.MountShaped id mount where
  position := shaped.position
  hosted := by
    obtain ⟨host, held, group⟩ := shaped.hosted
    exact ⟨host, grown.hosts held, group⟩
  top := shaped.top
  below parent same := by
    obtain ⟨before, above, held, names⟩ := shaped.below parent same
    exact ⟨before, above, grown.mounts held, names⟩

theorem HostingTree.shaped_empty : (HostingTree.unlinked {}).Shaped := by
  constructor <;> simp [HostingTree.unlinked]

theorem HostingTree.Shaped.addGroup {name : String} {cmsLocation : Option String}
    (shaped : tree.unlinked.Shaped) (added : tree.addGroup name cmsLocation = .ok after) :
    after.unlinked.Shaped := by
  have grown := HostingTree.extends_addGroup added
  have bare := HostingTree.unlinked_addGroup added
  have free : ∀ (i : Nat) (group : HostGroup), tree.unlinked.groups[i]? = some group →
      group.name ≠ name := by
    intro i group held same
    obtain ⟨linked, inTree, rfl⟩ := HostingTree.exists_group held
    have unused := (HostingTree.addGroup_eq_ok.mp added).1
    rw [HostingTree.group?, Array.find?_eq_none] at unused
    exact unused linked (Array.mem_of_getElem? inTree) (beq_iff_eq.mpr same)
  refine ⟨?_, ?_, ?_⟩
  · intro i j a b atI atJ same
    rw [bare] at atI atJ
    rcases getElem?_push_eq_some_iff.mp atI with oldI | ⟨lastI, rfl⟩
    · rcases getElem?_push_eq_some_iff.mp atJ with oldJ | ⟨lastJ, rfl⟩
      · exact shaped.names i j a b oldI oldJ same
      · exact absurd same (free i a oldI)
    · rcases getElem?_push_eq_some_iff.mp atJ with oldJ | ⟨lastJ, rfl⟩
      · exact absurd same.symm (free j b oldJ)
      · exact lastI.trans lastJ.symm
  · intro id host held
    rw [bare] at held
    exact (shaped.hosts id host held).extends grown
  · intro id mount held
    rw [bare] at held
    exact (shaped.mounts id mount held).extends grown

theorem HostingTree.Shaped.addPortMount {id : HostId} {entry : PortMount}
    (shaped : tree.unlinked.Shaped) (added : tree.addPortMount id entry = .ok after) :
    after.unlinked.Shaped := by
  rw [HostingTree.unlinked_addPortMount added]
  exact shaped

theorem HostingTree.Shaped.addHost {place : GroupPlace} {parent : Option VirtualHost} {label : String}
    {properties : NodeProperties} {linked : VirtualHost} (shaped : tree.unlinked.Shaped)
    (held : tree.HoldsHostPlace place parent)
    (added : tree.addHost place.position (parent.map (·.id))
      (.detached label parent place.name place.cmsLocation properties) = .ok (after, linked)) :
    after.unlinked.Shaped := by
  have grown := HostingTree.extends_addHost added
  obtain ⟨same, bare⟩ := HostingTree.unlinked_addHost added
  have new : after.unlinked.HostShaped tree.unlinked.hosts.size linked.unlinked := by
    refine HostingTree.HostShaped.extends ?_ grown
    refine ⟨by simp [same, HostingTree.unlinked, VirtualHost.unlinked], ?_, ?_, ?_⟩
    · refine ⟨place.position, _, held.group, ?_⟩
      rw [same]
      rfl
    · intro top
      rw [same] at top ⊢
      rw [VirtualHost.unlinked, Option.map_eq_none_iff] at top
      subst top
      rfl
    · intro position below
      rw [same] at below ⊢
      obtain ⟨above, rfl, rfl⟩ := Option.map_eq_some_iff.mp below
      obtain ⟨inTree, group⟩ := held.parent above rfl
      exact ⟨(Array.getElem?_eq_some_iff.mp inTree).1, above.unlinked, inTree, rfl, group.symm⟩
  refine ⟨?_, ?_, ?_⟩
  · rw [bare]
    exact shaped.names
  · intro id host inTree
    rw [bare] at inTree
    rcases getElem?_push_eq_some_iff.mp inTree with old | ⟨rfl, rfl⟩
    · exact (shaped.hosts id host old).extends grown
    · exact new
  · intro id mount inTree
    rw [bare] at inTree
    exact (shaped.mounts id mount inTree).extends grown

theorem HostingTree.Shaped.addMount {place : MountPlace} {own : MountSettings}
    {properties : MountProperties} {content : ContentPaths} {linked : Mount}
    (shaped : tree.unlinked.Shaped) (held : tree.HoldsMountPlace place)
    (added : tree.addMount (place.parent.map (·.id)) (place.detachedMount own properties content) =
      .ok (after, linked)) :
    after.unlinked.Shaped := by
  have grown := HostingTree.extends_addMount added
  obtain ⟨same, bare⟩ := HostingTree.unlinked_addMount added
  have new : after.unlinked.MountShaped tree.unlinked.mounts.size linked.unlinked := by
    refine HostingTree.MountShaped.extends ?_ grown
    refine ⟨by simp [same, HostingTree.unlinked, Mount.unlinked], ?_, ?_, ?_⟩
    · rw [same]
      exact ⟨place.host.unlinked, held.host, rfl⟩
    · intro top
      rw [same] at top ⊢
      rw [Mount.unlinked, Option.map_eq_none_iff] at top
      simp only [Mount.unlinked, MountPlace.detachedMount, MountPlace.mountPath, top]
    · intro position below
      rw [same] at below ⊢
      obtain ⟨above, isAbove, rfl⟩ := Option.map_eq_some_iff.mp below
      obtain ⟨inTree, host, group, port⟩ := held.parent above isAbove
      refine ⟨(Array.getElem?_eq_some_iff.mp inTree).1, above.unlinked, inTree, ?_, host.symm,
        group.symm, port.symm⟩
      simp only [Mount.unlinked, MountPlace.detachedMount, MountPlace.mountPath, isAbove]
  refine ⟨?_, ?_, ?_⟩
  · rw [bare]
    exact shaped.names
  · intro id host inTree
    rw [bare] at inTree
    exact (shaped.hosts id host inTree).extends grown
  · intro id mount inTree
    rw [bare] at inTree
    rcases getElem?_push_eq_some_iff.mp inTree with old | ⟨rfl, rfl⟩
    · exact (shaped.mounts id mount old).extends grown
    · exact new

end Grown

end SiteRouting
