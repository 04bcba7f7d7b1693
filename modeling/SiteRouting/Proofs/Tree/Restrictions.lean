import Mathlib
import SiteRouting.Proofs.Build.IgnoredValues
import SiteRouting.Proofs.Tree.Skeleton

namespace SiteRouting

def VirtualHost.unrestricted (host : VirtualHost) : VirtualHost :=
  { host with properties := host.properties.unrestricted }

def Mount.unrestricted (mount : Mount) : Mount :=
  { mount with properties := mount.properties.unrestricted }

/-- A tree in which no host and no mount is restricted to a context path. Growing
a tree never looks at restrictions, so it grows as the tree itself does. -/
def HostingTree.unrestricted (tree : HostingTree) : HostingTree where
  groups := tree.groups
  hosts := tree.hosts.map VirtualHost.unrestricted
  mounts := tree.mounts.map Mount.unrestricted

theorem map_modify_of_comm {α : Type} {nodes : Array α} {i : Nat} {link view : α → α}
    (commutes : ∀ node, link (view node) = view (link node)) :
    (nodes.map view).modify i link = (nodes.modify i link).map view := by
  ext j
  · simp
  simp only [Array.getElem_modify, Array.getElem_map]
  split
  · exact commutes _
  · rfl

section Growth

variable {tree : HostingTree}

theorem HostingTree.host?_unrestricted (id : HostId) :
    tree.unrestricted.host? id = (tree.host? id).map VirtualHost.unrestricted :=
  Array.getElem?_map

theorem HostingTree.mount?_unrestricted (id : MountId) :
    tree.unrestricted.mount? id = (tree.mount? id).map Mount.unrestricted :=
  Array.getElem?_map

theorem HostingTree.addGroup_unrestricted (name : String) (cmsLocation : Option String) :
    tree.unrestricted.addGroup name cmsLocation =
      (tree.addGroup name cmsLocation).map HostingTree.unrestricted := by
  have same : tree.unrestricted.group? name = tree.group? name := rfl
  rw [HostingTree.addGroup, HostingTree.addGroup, same]
  split <;> rfl

theorem HostingTree.addHost_unrestricted (position : Nat) (parent : Option HostId) (host : VirtualHost) :
    tree.unrestricted.addHost position parent host.unrestricted =
      (tree.addHost position parent host).map
        (Prod.map HostingTree.unrestricted VirtualHost.unrestricted) := by
  cases parent with
  | none =>
    have taken : (tree.unrestricted.groups[position]?.bind (·.root? host.unrestricted.name)).isSome =
        (tree.groups[position]?.bind (·.root? host.name)).isSome := rfl
    rw [HostingTree.addHost, HostingTree.addHost, HostingTree.addRootHost, HostingTree.addRootHost]
    dsimp only
    rw [taken]
    split
    · rfl
    · simp [Except.map, HostingTree.unrestricted, VirtualHost.unrestricted]
  | some above =>
    have taken : ((tree.unrestricted.host? above).bind (·.child? host.unrestricted.name)).isSome =
        ((tree.host? above).bind (·.child? host.name)).isSome := by
      rw [HostingTree.host?_unrestricted]
      cases tree.host? above <;> rfl
    rw [HostingTree.addHost, HostingTree.addHost, HostingTree.addChildHost, HostingTree.addChildHost]
    dsimp only
    rw [taken]
    split
    · rfl
    · simp only [Except.map, Prod.map, HostingTree.unrestricted, Array.size_map, Array.map_push]
      rw [map_modify_of_comm]
      · rfl
      · exact fun node => rfl

theorem HostingTree.hasPortMount_unrestricted (id : HostId) (port : Port) :
    tree.unrestricted.hasPortMount id port = tree.hasPortMount id port := by
  rw [HostingTree.hasPortMount, HostingTree.hasPortMount, HostingTree.host?_unrestricted]
  cases tree.host? id <;> rfl

theorem HostingTree.addPortMount_unrestricted (id : HostId) (entry : PortMount) :
    tree.unrestricted.addPortMount id entry =
      (tree.addPortMount id entry).map HostingTree.unrestricted := by
  have name : (tree.unrestricted.host? id).map (·.hostName) = (tree.host? id).map (·.hostName) := by
    rw [HostingTree.host?_unrestricted, Option.map_map]
    rfl
  rw [HostingTree.addPortMount, HostingTree.addPortMount, HostingTree.hasPortMount_unrestricted, name]
  split
  · rfl
  · simp only [Except.map, HostingTree.unrestricted]
    rw [map_modify_of_comm]
    exact fun node => rfl

theorem HostingTree.addMount_unrestricted (parent : Option MountId) (mount : Mount) :
    tree.unrestricted.addMount parent mount.unrestricted =
      (tree.addMount parent mount).map (Prod.map HostingTree.unrestricted Mount.unrestricted) := by
  cases parent with
  | none => simp [HostingTree.addMount, Except.map, HostingTree.unrestricted, Mount.unrestricted]
  | some above =>
    have taken : ((tree.unrestricted.mount? above).bind (·.child? mount.unrestricted.name)).isSome =
        ((tree.mount? above).bind (·.child? mount.name)).isSome := by
      rw [HostingTree.mount?_unrestricted]
      cases tree.mount? above <;> rfl
    have path : (tree.unrestricted.mount? above).map (·.mountPath) =
        (tree.mount? above).map (·.mountPath) := by
      rw [HostingTree.mount?_unrestricted, Option.map_map]
      rfl
    rw [HostingTree.addMount, HostingTree.addMount]
    dsimp only
    rw [taken, path]
    split
    · rfl
    · simp only [Except.map, Prod.map, HostingTree.unrestricted, Array.size_map, Array.map_push]
      rw [map_modify_of_comm]
      · rfl
      · exact fun node => rfl

theorem HostingTree.describeMount_unrestricted (mount : Mount) :
    tree.unrestricted.describeMount mount.unrestricted = tree.describeMount mount := by
  have name : (tree.unrestricted.host? mount.host).map (·.hostName) =
      (tree.host? mount.host).map (·.hostName) := by
    rw [HostingTree.host?_unrestricted, Option.map_map]
    rfl
  have host : mount.unrestricted.host = mount.host := rfl
  rw [HostingTree.describeMount, HostingTree.describeMount, host, name]
  rfl

end Growth

section Index

variable {tree : HostingTree} {index : MountIndex}

theorem MountIndex.addAliases_unrestricted (id : MountId) (keys : List AliasKey) :
    index.addAliases tree.unrestricted id keys = index.addAliases tree id keys := by
  have one (index : MountIndex) (key : AliasKey) :
      index.addAlias tree.unrestricted id key = index.addAlias tree id key := by
    have described (winner : MountId) :
        (tree.unrestricted.mount? winner).map tree.unrestricted.describeMount =
          (tree.mount? winner).map tree.describeMount := by
      rw [HostingTree.mount?_unrestricted, Option.map_map]
      exact Option.map_congr fun mount _ => HostingTree.describeMount_unrestricted mount
    simp only [MountIndex.addAlias, described]
  induction keys generalizing index with
  | nil => rfl
  | cons key rest ih => simp only [MountIndex.addAliases, one, ih]

theorem MountIndex.add_unrestricted (mount : Mount) :
    index.add tree.unrestricted mount.unrestricted = index.add tree mount := by
  have keys : mount.unrestricted.aliasKeys = mount.aliasKeys := rfl
  simp only [MountIndex.add, keys, MountIndex.addAliases_unrestricted]
  rfl

end Index

section Equality

variable {a b : HostingTree}

/-- What a view of all nodes hides makes no difference if it is the
same at each position. -/
theorem eq_of_map_eq {α : Type} {a b : Array α} {view : α → α} (seen : a.map view = b.map view)
    (hidden : ∀ (i : Nat) (x y : α), a[i]? = some x → b[i]? = some y → view x = view y → x = y) : a = b := by
  have sizes : a.size = b.size := by simpa using congrArg Array.size seen
  refine Array.ext sizes fun i inA inB => ?_
  have here := congrArg (·[i]?) seen
  simp only [Array.getElem?_map, Array.getElem?_eq_getElem inA, Array.getElem?_eq_getElem inB,
    Option.map_some, Option.some.injEq] at here
  exact hidden i a[i] b[i] (Array.getElem?_eq_getElem inA) (Array.getElem?_eq_getElem inB) here

theorem VirtualHost.eq_of_unrestricted {one other : VirtualHost}
    (others : one.unrestricted = other.unrestricted) (properties : one.properties = other.properties) :
    one = other := by
  have whole (host : VirtualHost) : host = { host.unrestricted with properties := host.properties } := rfl
  rw [whole one, whole other, others, properties]

theorem Mount.eq_of_unrestricted {one other : Mount}
    (others : one.unrestricted = other.unrestricted) (properties : one.properties = other.properties) :
    one = other := by
  have whole (mount : Mount) : mount = { mount.unrestricted with properties := mount.properties } := rfl
  rw [whole one, whole other, others, properties]

/-- Trees that differ in restrictions only are the same if all properties are. -/
theorem HostingTree.eq_iff_of_unrestricted (others : a.unrestricted = b.unrestricted) :
    a = b ↔
      (∀ (id : Nat) (one other : VirtualHost), a.hosts[id]? = some one → b.hosts[id]? = some other →
        one.properties = other.properties) ∧
      ∀ (id : Nat) (one other : Mount), a.mounts[id]? = some one → b.mounts[id]? = some other →
        one.properties = other.properties := by
  constructor
  · rintro rfl
    refine ⟨?_, ?_⟩
    · intro id one other held heldToo
      cases held.symm.trans heldToo
      rfl
    · intro id one other held heldToo
      cases held.symm.trans heldToo
      rfl
  · rintro ⟨hostProperties, mountProperties⟩
    have groups : a.groups = b.groups := (congrArg HostingTree.groups others :)
    have hosts : a.hosts = b.hosts :=
      eq_of_map_eq (congrArg HostingTree.hosts others) fun id one other held heldToo seen =>
        VirtualHost.eq_of_unrestricted seen (hostProperties id one other held heldToo)
    have mounts : a.mounts = b.mounts :=
      eq_of_map_eq (congrArg HostingTree.mounts others) fun id one other held heldToo seen =>
        Mount.eq_of_unrestricted seen (mountProperties id one other held heldToo)
    obtain ⟨_, _, _⟩ := a
    obtain ⟨_, _, _⟩ := b
    simp only [HostingTree.mk.injEq]
    exact ⟨groups, hosts, mounts⟩

end Equality

end SiteRouting
