import Mathlib
import SiteRouting.Admin.View
import SiteRouting.Proofs.Lookup.AnyPort
import SiteRouting.Proofs.Lookup.Choice
import SiteRouting.Proofs.Tree.Labels
import SiteRouting.Proofs.Tree.MountWalk

namespace SiteRouting

/-- A mount belongs to a resolved host, by its host, its group and the port
entry it was found through. -/
structure ResolvedHost.Holds (found : ResolvedHost) (mount : Mount) : Prop where
  member : mount ∈ found.tree.mounts
  host : mount.host = found.host.id
  group : mount.group = found.host.group
  port : mount.port = found.portMount.port

/-- The port entry of a resolved host leads to a root mount on that very host. -/
structure ResolvedHost.IsRoot (found : ResolvedHost) (root : Mount) : Prop extends found.Holds root where
  entry : found.portMount.root = some root.id
  top : root.parent = none

/-- A mount is kept for one context path, and a request asks for another one.
An empty context path means the root context. -/
def Mount.IsKeptFrom (mount : Mount) (contextPath : Option String) : Prop :=
  ∃ requested only, contextPath = some requested ∧ mount.properties.onlyForContextPath = some only ∧
    only ≠ if requested = "" then "/" else requested

/-- How a resolved host answers a request below a root mount: there is one
deepest mount on the request path, and one climb from it, which ends at the root
mount. Without a context path the deepest mount is the answer, else the first
one on the climb that is not kept from the request, and none only if all are. -/
structure ResolvedHost.Answers (found : ResolvedHost) (contextPath : Option String) (path : String)
    (root deepest : Mount) (line : List Mount) : Prop where
  deepest_iff : ∀ mount, found.tree.IsDeepest root (pathSegments path) mount ↔ mount = deepest
  climb_iff : ∀ other, found.tree.Climb deepest other ↔ other = line
  ends : [root] <:+ line
  unrestricted : found.matchMount none path = some ⟨found, deepest⟩
  some_iff : ∀ matched, found.matchMount contextPath path = some matched ↔
    matched.host = found ∧ ¬ matched.mount.IsKeptFrom contextPath ∧ ∃ below above,
      line = below ++ matched.mount :: above ∧ ∀ lower ∈ below, lower.IsKeptFrom contextPath
  none_iff : found.matchMount contextPath path = none ↔ ∀ mount ∈ line, mount.IsKeptFrom contextPath

section Root

variable {tree : HostingTree} {found : ResolvedHost} {name : String} {port : Port}

theorem HostingTree.of_firstHost? {labels : List String} {usable : VirtualHost → Bool}
    {groups : List HostGroup} {host : VirtualHost}
    (first : tree.firstHost? labels usable groups = some host) : host ∈ tree.hosts ∧ usable host = true := by
  obtain ⟨group, _, isHost⟩ := List.exists_of_findSome?_eq_some first
  obtain ⟨finds, isUsable⟩ := Option.filter_eq_some_iff.mp isHost
  exact ⟨HostingTree.mem_of_findHost finds, isUsable⟩

/-- A lookup ends only with a host that has a root mount for the port it is
matched through, which is the one asked for or the one for any port. -/
theorem HostingTree.usable_of_matchHost (finds : tree.matchHost name port = some found) :
    found.tree = tree ∧ found.port = port ∧ found.host ∈ tree.hosts ∧
      (found.matchedPort = port ∨ found.matchedPort = anyPort) ∧
      ∃ id, found.host.rootMount? found.matchedPort = some id := by
  rcases HostingTree.matchHost_eq_some finds with ⟨host, serving, rfl⟩ | ⟨_, _, host, standsIn, rfl⟩
  · obtain ⟨member, serves⟩ := HostingTree.of_firstHost? serving
    exact ⟨rfl, rfl, member, Or.inl rfl, Option.isSome_iff_exists.mp serves⟩
  · obtain ⟨member, usable⟩ := HostingTree.of_firstHost? standsIn
    simp only [VirtualHost.standsIn, Bool.and_eq_true] at usable
    exact ⟨rfl, rfl, member, Or.inr rfl, Option.isSome_iff_exists.mp usable.2⟩

/-- A host with a root mount for the port that it is matched through has
it for all that it answers. -/
theorem ResolvedHost.exists_root (wellFormed : found.tree.WellFormed)
    (member : found.host ∈ found.tree.hosts) {id : MountId}
    (usable : found.host.rootMount? found.matchedPort = some id) :
    ∃ root, found.rootMount? = some root ∧ root.id = id ∧ found.IsRoot root ∧ root.mountPath = "" ∧
      found.portMount.port = found.matchedPort := by
  obtain ⟨position, held⟩ := Array.mem_iff_getElem?.mp member
  have served := wellFormed.ports position found.host held
  have here : found.host.id = position := (wellFormed.hosts position found.host held).position
  obtain ⟨entry, bound, leads⟩ := Option.bind_eq_some_iff.mp usable
  have isEntry : found.portMount = entry := by
    rw [ResolvedHost.portMount, bound]
    rfl
  have listed : (found.matchedPort, entry) ∈ found.host.portMounts := mem_of_lookup bound
  obtain ⟨root, inTree, top, path, atHost, inGroup, atPort⟩ := served.root _ entry listed id leads
  have position : root.id = id := (wellFormed.mounts id root inTree).position
  have samePort : found.portMount.port = found.matchedPort := isEntry ▸ served.port _ entry listed
  refine ⟨root, ?_, position, ?_, path, samePort⟩
  · rw [ResolvedHost.rootMount?, isEntry, leads]
    exact inTree
  · exact {
      member := Array.mem_of_getElem? inTree
      host := atHost.trans here.symm
      group := inGroup
      port := atPort.trans samePort.symm
      entry := by rw [isEntry, leads, position]
      top := top }

end Root

section Matching

variable {found : ResolvedHost} {root : Mount}

theorem Mount.serves_eq_false_iff {mount : Mount} {contextPath : Option String} :
    mount.serves (contextPath.map fun requested => if requested.isEmpty then "/" else requested) = false ↔
      mount.IsKeptFrom contextPath := by
  cases contextPath with
  | none => simp [Mount.serves, Mount.IsKeptFrom]
  | some requested =>
    cases only : mount.properties.onlyForContextPath with
    | none => simp [Mount.serves, Mount.IsKeptFrom, only]
    | some context => simp [Mount.serves, Mount.IsKeptFrom, only, String.isEmpty_iff]

theorem Mount.serves_eq_true_iff {mount : Mount} {contextPath : Option String} :
    mount.serves (contextPath.map fun requested => if requested.isEmpty then "/" else requested) = true ↔
      ¬ mount.IsKeptFrom contextPath := by
  rw [← Mount.serves_eq_false_iff, Bool.not_eq_false]

/-- What a resolved host answers is found on the trail of the way down. -/
theorem ResolvedHost.matchMount_eq (rooted : found.rootMount? = some root) (contextPath : Option String)
    (path : String) : found.matchMount contextPath path =
      ((found.tree.mountTrail [] root (pathSegments path)).find? fun mount => mount.serves
        (contextPath.map fun requested => if requested.isEmpty then "/" else requested)).map
          fun mount => ⟨found, mount⟩ := by
  rw [ResolvedHost.matchMount, rooted]
  exact Option.map_eq_bind.symm

/-- From any root mount without a parent, a resolved host answers as it
should: the deepest mount on the path serves it, or the nearest one above
that is not kept for another context path. -/
theorem ResolvedHost.exists_answers (wellFormed : found.tree.WellFormed) (member : root ∈ found.tree.mounts)
    (top : root.parent = none) (rooted : found.rootMount? = some root) (contextPath : Option String)
    (path : String) :
    ∃ deepest ∈ found.tree.mounts, found.Answers contextPath path root deepest
      (found.tree.mountTrail [] root (pathSegments path)) := by
  obtain ⟨deepest, inMounts, isDeepest, climb⟩ :=
    (HostingTree.Climb.top top).mountTrail wellFormed member (pathSegments path)
  refine ⟨deepest, inMounts, ?_⟩
  constructor
  case deepest_iff => exact fun mount => ⟨isDeepest.unique, fun same => same ▸ isDeepest⟩
  case climb_iff => exact fun other => ⟨climb.unique, fun same => same ▸ climb⟩
  case ends => exact found.tree.suffix_mountTrail [] root (pathSegments path)
  case unrestricted =>
    obtain ⟨above, line⟩ := climb.exists_eq_cons
    rw [found.matchMount_eq rooted, line, List.find?_cons_of_pos (by rfl), Option.map_some]
  case some_iff =>
    intro matched
    rw [found.matchMount_eq rooted, Option.map_eq_some_iff]
    simp only [List.find?_eq_some_iff_append, Bool.not_eq_true', Mount.serves_eq_false_iff,
      Mount.serves_eq_true_iff]
    constructor
    · rintro ⟨mount, ⟨serves, below, above, line, kept⟩, rfl⟩
      exact ⟨rfl, serves, below, above, line, kept⟩
    · rintro ⟨rfl, serves, below, above, line, kept⟩
      exact ⟨matched.mount, ⟨serves, below, above, line, kept⟩, rfl⟩
  case none_iff =>
    rw [found.matchMount_eq rooted, Option.map_eq_none_iff, List.find?_eq_none]
    simp only [Bool.not_eq_true, Mount.serves_eq_false_iff]

theorem ResolvedHost.IsRoot.matchMount_none (isRoot : found.IsRoot root) (wellFormed : found.tree.WellFormed)
    (rooted : found.rootMount? = some root) {path : String} {mount : Mount}
    (deepest : found.tree.IsDeepest root (pathSegments path) mount) :
    found.matchMount none path = some ⟨found, mount⟩ := by
  obtain ⟨lowest, _, answers⟩ :=
    ResolvedHost.exists_answers wellFormed isRoot.member isRoot.top rooted none path
  rw [answers.unrestricted, (answers.deepest_iff mount).mp deepest]

/-- Every mount on the climb belongs to the resolved host if the root
mount at its end does. -/
theorem ResolvedHost.Answers.holds {contextPath : Option String} {path : String} {deepest : Mount}
    {line : List Mount} (answers : found.Answers contextPath path root deepest line)
    (wellFormed : found.tree.WellFormed) (held : found.Holds root) (inMounts : deepest ∈ found.tree.mounts) :
    ∀ mount ∈ line, found.Holds mount := by
  have places := ((answers.climb_iff line).mpr rfl).place wellFormed inMounts
  obtain ⟨_, rootHost, rootGroup, rootPort⟩ :=
    places root (answers.ends.subset (List.mem_singleton_self root))
  intro mount onLine
  obtain ⟨member, host, group, port⟩ := places mount onLine
  exact {
    member
    host := (host.trans rootHost.symm).trans held.host
    group := (group.trans rootGroup.symm).trans held.group
    port := (port.trans rootPort.symm).trans held.port }

theorem ResolvedHost.Answers.mem {contextPath : Option String} {path : String} {deepest : Mount}
    {line : List Mount} (answers : found.Answers contextPath path root deepest line) {matched : ResolvedMount}
    (answered : found.matchMount contextPath path = some matched) : matched.mount ∈ line := by
  obtain ⟨_, _, below, above, rfl, _⟩ := (answers.some_iff matched).mp answered
  exact List.mem_append_right below List.mem_cons_self

end Matching

section Registry

variable {config : Configuration} {policy : BuildPolicy} {generation : Nat} {registry : Registry}

/-- Wherever a lookup in an accepted build ends, there is a root mount on
that very host, for the port asked for or for any port. Below it a request
path has one deepest mount. From there the climb by way of the parents ends
at the root mount, and the nearest mount on it that is not kept for another
context path is the answer; nothing is answered only if all of them are. What
is answered belongs to the host, its group and the port entry, and its path
is made of the segments of the request path that lead to it. -/
theorem Configuration.build_matches_mounts (built : config.build policy generation = .ok registry)
    {name : String} {port : Port} {found : ResolvedHost}
    (finds : registry.tree.matchHost name port = some found) (contextPath : Option String) (path : String) :
    found.tree = registry.tree ∧ found.port = port ∧ found.host ∈ registry.tree.hosts ∧
    (found.portMount.port = port ∨ found.portMount.port = anyPort) ∧
    ∃ root deepest line, found.rootMount? = some root ∧ found.IsRoot root ∧
      found.Answers contextPath path root deepest line ∧ (∀ mount ∈ line, found.Holds mount) ∧
      ∀ matched, found.matchMount contextPath path = some matched → found.Holds matched.mount ∧
        ∃ taken, taken <+: pathSegments path ∧ registry.tree.mountAt? root taken = some matched.mount ∧
          matched.mount.mountPath = pathText taken ∧ ∃ entries, matched.summary = .table entries ∧
            ("mount_path", .text matched.mount.mountPath) ∈ entries := by
  obtain ⟨wellFormed, _⟩ := Configuration.build_named built
  obtain ⟨sameTree, samePort, member, ported, id, usable⟩ := HostingTree.usable_of_matchHost finds
  rw [← sameTree] at wellFormed member
  obtain ⟨root, rooted, _, isRoot, atTop, entryPort⟩ := ResolvedHost.exists_root wellFormed member usable
  obtain ⟨deepest, inMounts, answers⟩ :=
    ResolvedHost.exists_answers wellFormed isRoot.member isRoot.top rooted contextPath path
  have held := answers.holds wellFormed isRoot.toHolds inMounts
  rw [← sameTree, entryPort]
  refine ⟨rfl, samePort, member, ported, root, deepest, _, rooted, isRoot, answers, held, ?_⟩
  intro matched answered
  have onLine := answers.mem answered
  refine ⟨held matched.mount onLine, ?_⟩
  rcases HostingTree.mem_mountTrail onLine with nothing | ⟨taken, isFront, leads⟩
  · cases nothing
  refine ⟨taken, isFront, leads, ?_, _, rfl, by simp⟩
  rw [wellFormed.mountPath_of_mountAt? isRoot.member leads, atTop, String.empty_append]

/-- A host whose mounts lie below each other; two of them are kept for
different context paths. -/
def contextSite : Configuration where
  hostGroups := [{
    name := "prod"
    hosts := [.node { name := "localhost" } (some (.node {} [
      .node { name := "shop", onlyForContextPath := some "/" } [
        .node { name := "cart", onlyForContextPath := some "/checkout" } []]])) [] []] }]

theorem contextSite_matches :
    ∃ registry found, contextSite.build .lenient 1 = .ok registry ∧
      registry.tree.matchHost "localhost" 8080 = some found ∧ found.portMount.port = anyPort ∧
      ∃ root deepest line, found.IsRoot root ∧
        found.Answers (some "") "//shop/cart/item/" root deepest line ∧
        deepest.mountPath = "/shop/cart" ∧
        (found.matchMount (some "") "//shop/cart/item/").map (·.mount.mountPath) = some "/shop" := by
  have shown : (contextSite.build .lenient 1).toOption.map (fun registry =>
      (registry.tree.matchHost "localhost" 8080).map fun found =>
        (found.portMount.port, (found.matchMount none "//shop/cart/item/").map (·.mount.mountPath),
          (found.matchMount (some "") "//shop/cart/item/").map (·.mount.mountPath))) =
      some (some (anyPort, some "/shop/cart", some "/shop")) := by decide +kernel
  obtain ⟨registry, built, viewed⟩ := Configuration.build_of_view shown
  obtain ⟨found, finds, viewed⟩ := Option.map_eq_some_iff.mp viewed
  obtain ⟨entryPort, viewed⟩ := Prod.mk.inj viewed
  obtain ⟨lowest, nearest⟩ := Prod.mk.inj viewed
  obtain ⟨_, _, _, _, root, deepest, line, _, isRoot, answers, _⟩ :=
    Configuration.build_matches_mounts built finds (some "") "//shop/cart/item/"
  rw [answers.unrestricted] at lowest
  exact ⟨registry, found, built, finds, entryPort, root, deepest, line, isRoot, answers,
    Option.some.inj lowest, nearest⟩

end Registry

end SiteRouting
