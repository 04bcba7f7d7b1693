import Mathlib
import SiteRouting.Proofs.Build.NodeNames
import SiteRouting.Proofs.Lookup.MountMatching

namespace SiteRouting

/-- A resolved host answers the path of a mount with that mount:
between any number of slashes, and with more segments behind it if the
first of them names no child. -/
structure ResolvedHost.Addresses (found : ResolvedHost) (mount : Mount) : Prop where
  padded : ∀ leading trailing,
    found.matchMount none (slashes leading ++ mount.mountPath ++ slashes trailing) = some ⟨found, mount⟩
  extended : ∀ leading first rest, IsPlainSegment first → found.tree.childMount? mount first = none →
    found.matchMount none (slashes leading ++ mount.mountPath ++ pathText (first :: rest)) =
      some ⟨found, mount⟩

section Walk

variable {root mount : Mount} {names : List String}

/-- A host with a root mount answers the path of every mount below it, if the
names on the way are plain. -/
theorem ResolvedHost.IsRoot.addresses {found : ResolvedHost} (isRoot : found.IsRoot root)
    (wellFormed : found.tree.WellFormed) (rooted : found.rootMount? = some root) (atTop : root.mountPath = "")
    (leads : found.tree.mountAt? root names = some mount) (plain : ∀ name ∈ names, IsPlainSegment name) :
    found.Addresses mount := by
  have isPath : mount.mountPath = pathText names := by
    rw [wellFormed.mountPath_of_mountAt? isRoot.member leads, atTop, String.empty_append]
  constructor
  case padded =>
    intro leading trailing
    obtain ⟨more, split, ends⟩ := pathSegments_front plain leading (slashes_begins trailing)
    have nothing : more = [] := ends fun c inside => List.eq_of_mem_replicate (toList_slashes trailing ▸ inside)
    refine isRoot.matchMount_none wellFormed rooted ?_
    rw [isPath, split, nothing]
    exact ⟨names, [], rfl, leads, nofun⟩
  case extended =>
    intro leading first rest isPlain childless
    have plainToo : ∀ name ∈ names ++ [first], IsPlainSegment name := by
      intro name inside
      rcases List.mem_append.mp inside with onWay | behind
      · exact plain name onWay
      · exact List.mem_singleton.mp behind ▸ isPlain
    obtain ⟨more, split, _⟩ := pathSegments_front plainToo leading (pathText_begins rest)
    have whole : slashes leading ++ mount.mountPath ++ pathText (first :: rest) =
        slashes leading ++ pathText (names ++ [first]) ++ pathText rest := by
      rw [isPath, String.append_assoc, String.append_assoc, ← pathText_append, ← pathText_append,
        List.append_assoc, List.singleton_append]
    refine isRoot.matchMount_none wellFormed rooted ?_
    rw [whole, split, List.append_assoc]
    refine ⟨names, first :: more, rfl, leads, ?_⟩
    rintro _ _ ⟨⟩
    exact childless

end Walk

section Registry

variable {config : Configuration} {policy : BuildPolicy} {generation : Nat} {registry : Registry}

/-- In the tree of a valid configuration the names on a way down are
plain segments. -/
theorem Configuration.build_plain_names (valid : config.isValid)
    (built : config.build policy generation = .ok registry) {root mount : Mount} {names : List String}
    (member : root ∈ registry.tree.mounts) (leads : registry.tree.mountAt? root names = some mount) :
    ∀ name ∈ names, IsPlainSegment name := by
  obtain ⟨wellFormed, _⟩ := Configuration.build_named built
  induction names generalizing root with
  | nil => nofun
  | cons first rest ih =>
    rw [HostingTree.mountAt?_cons, Option.bind_eq_some_iff] at leads
    obtain ⟨child, found, further⟩ := leads
    obtain ⟨inMounts, _, isName⟩ := (wellFormed.childMount?_eq_some_iff member).mp found
    obtain ⟨node, _, declared, fromNode, _⟩ := Configuration.build_namesMount built inMounts
    have named := declared.isNodeName valid
    rw [← fromNode, isName] at named
    intro name inside
    rcases List.mem_cons.mp inside with rfl | later
    · exact ⟨named.ne_empty, named.no_slash⟩
    · exact ih inMounts further name later

/-- In the tree of a valid configuration every mount below a usable port entry
is what its own path leads to, however many slashes stand around it and whatever
its children do not take, and no other mount below that entry has this path. -/
theorem Configuration.build_addresses_mounts (valid : config.isValid)
    (built : config.build policy generation = .ok registry) {found : ResolvedHost}
    (sameTree : found.tree = registry.tree) (member : found.host ∈ registry.tree.hosts) {top : MountId}
    (usable : found.host.rootMount? found.matchedPort = some top) {mount : Mount}
    (inTree : mount ∈ registry.tree.mounts) (below : registry.tree.LeadsTo top mount.id) :
    found.Addresses mount ∧
      ∀ other ∈ registry.tree.mounts, registry.tree.LeadsTo top other.id →
        other.mountPath = mount.mountPath → other = mount := by
  obtain ⟨wellFormed, _⟩ := Configuration.build_named built
  obtain ⟨root, rooted, rfl, isRoot, atTop, _⟩ :=
    ResolvedHost.exists_root (sameTree ▸ wellFormed) (sameTree ▸ member) usable
  have addressed : ∀ other ∈ registry.tree.mounts, registry.tree.LeadsTo root.id other.id →
      found.Addresses other := by
    intro other inMounts leadsTo
    have inRegistry : root ∈ registry.tree.mounts := sameTree ▸ isRoot.member
    obtain ⟨names, leads⟩ := wellFormed.exists_mountAt? inRegistry leadsTo (wellFormed.mount?_id inMounts)
    have plain := Configuration.build_plain_names valid built inRegistry leads
    exact isRoot.addresses (sameTree ▸ wellFormed) rooted atTop (sameTree ▸ leads) plain
  refine ⟨addressed mount inTree below, ?_⟩
  intro other inMounts leadsTo samePath
  have own := (addressed mount inTree below).padded 0 0
  have others := (addressed other inMounts leadsTo).padded 0 0
  rw [samePath, own] at others
  exact (congrArg ResolvedMount.mount (Option.some.inj others)).symm

theorem contextSite_addresses :
    contextSite.isValid ∧ ∃ registry host root mount, contextSite.build .lenient 1 = .ok registry ∧
      host ∈ registry.tree.hosts ∧ host.rootMount? anyPort = some root ∧
      mount ∈ registry.tree.mounts ∧ registry.tree.LeadsTo root mount.id ∧
      mount.mountPath = "/shop/cart" ∧
      ResolvedHost.Addresses ⟨registry.tree, host, "localhost", 8080, anyPort⟩ mount := by
  have shown : (contextSite.build .lenient 1).toOption.map (fun registry =>
      (registry.tree.mounts[2]?).map fun mount => (mount.host, mount.port, mount.mountPath)) =
      some (some (0, anyPort, "/shop/cart")) := by decide +kernel
  have valid : contextSite.isValid := by decide +kernel
  obtain ⟨registry, built, viewed⟩ := Configuration.build_of_view shown
  obtain ⟨mount, held, viewed⟩ := Option.map_eq_some_iff.mp viewed
  obtain ⟨atHost, viewed⟩ := Prod.mk.inj viewed
  obtain ⟨atPort, isPath⟩ := Prod.mk.inj viewed
  obtain ⟨wellFormed, _⟩ := Configuration.build_named built
  have inTree := Array.mem_of_getElem? held
  obtain ⟨host, root, inHosts, usable, below⟩ :=
    (wellFormed.rooted 2 mount held 0 anyPort).mpr ⟨atHost.symm, atPort.symm⟩
  have position : mount.id = 2 := (wellFormed.mounts 2 mount held).position
  rw [← position] at below
  have member := Array.mem_of_getElem? inHosts
  let found : ResolvedHost := ⟨registry.tree, host, "localhost", 8080, anyPort⟩
  have sameTree : found.tree = registry.tree := rfl
  exact ⟨valid, registry, host, root, mount, built, member, usable, inTree, below, isPath,
    (Configuration.build_addresses_mounts valid built sameTree member usable inTree below).1⟩

end Registry

end SiteRouting
