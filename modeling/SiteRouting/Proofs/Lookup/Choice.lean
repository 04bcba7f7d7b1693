import Mathlib
import SiteRouting.Registry
import SiteRouting.Proofs.Tree.Append
import SiteRouting.Proofs.Tree.WellFormed

namespace SiteRouting

def VirtualHost.serves (host : VirtualHost) (port : Port) : Bool :=
  (host.rootMount? port).isSome

/-- Whether a host answers for a port through its entry for any port. An
entry for the port itself prevents it, even one that leads nowhere. -/
def VirtualHost.standsIn (host : VirtualHost) (port : Port) : Bool :=
  port != anyPort && (host.portMount? port).isNone && host.serves anyPort

/-- The first host that is usable among the candidates of groups: the hosts
that the groups, in the given order, have for the labels. -/
def HostingTree.firstHost? (tree : HostingTree) (labels : List String) (usable : VirtualHost → Bool)
    (groups : List HostGroup) : Option VirtualHost :=
  groups.findSome? fun group => (tree.findHost group labels).filter usable

section Choice

variable {tree : HostingTree} {labels : List String} {port : Port} {usable : VirtualHost → Bool}

theorem HostingTree.firstHost?_cons (group : HostGroup) (groups : List HostGroup) :
    tree.firstHost? labels usable (group :: groups) =
      ((tree.findHost group labels).filter usable).or (tree.firstHost? labels usable groups) := by
  rw [HostingTree.firstHost?, List.findSome?_cons]
  cases (tree.findHost group labels).filter usable <;> rfl

/-- Going through the groups with a host kept on the way comes down to two plain
searches. A host for exactly the port wins wherever it stands. Without one the
host that was kept before wins, and without that the first one to stand in. -/
theorem HostingTree.chooseHost_eq (kept : Option (VirtualHost × Port)) (groups : List HostGroup) :
    tree.chooseHost labels port kept groups =
      ((tree.firstHost? labels (·.serves port) groups).map (·, port)).or
        (kept.or ((tree.firstHost? labels (·.standsIn port) groups).map (·, anyPort))) := by
  induction groups generalizing kept with
  | nil => cases kept <;> rfl
  | cons group rest ih =>
    rw [HostingTree.chooseHost, HostingTree.firstHost?_cons, HostingTree.firstHost?_cons]
    cases tree.findHost group labels with
    | none => exact ih kept
    | some host =>
      simp only [Option.filter_some]
      cases bound : host.portMount? port with
      | some entry =>
        have standsIn : host.standsIn port = false := by simp [VirtualHost.standsIn, bound]
        have serves : host.serves port = entry.root.isSome := by
          rw [VirtualHost.serves, VirtualHost.rootMount?, bound, Option.bind_some]
        rw [standsIn, serves]
        dsimp only
        split
        · rfl
        · exact ih kept
      | none =>
        have serves : host.serves port = false := by simp [VirtualHost.serves, VirtualHost.rootMount?, bound]
        have standsIn : host.standsIn port = (port != anyPort && (host.rootMount? anyPort).isSome) := by
          simp [VirtualHost.standsIn, bound, VirtualHost.serves]
        rw [serves, standsIn]
        dsimp only
        rw [ih]
        split
        · cases kept <;> simp
        · simp

end Choice

section Front

variable {front back : HostingTree} {labels : List String} {usable : VirtualHost → Bool}

theorem HostingTree.bind_host?_append {link : Option HostId}
    (inFront : ∀ id, link = some id → ∃ host, front.host? id = some host) :
    link.bind (front.append back).host? = link.bind front.host? := by
  refine Option.bind_congr fun id linked => ?_
  obtain ⟨host, held⟩ := inFront id linked
  rw [HostingTree.host?_append_of_held front back held, held]

theorem HostingTree.WellFormed.exists_child (wellFormed : front.WellFormed) {host : VirtualHost}
    (member : host ∈ front.hosts) {label : String} {id : HostId} (linked : host.child? label = some id) :
    ∃ child, front.host? id = some child := by
  obtain ⟨position, held⟩ := Array.mem_iff_getElem?.mp member
  obtain ⟨child, inTree, _⟩ := ((wellFormed.hostChildren position host held).lookup_iff label id).mp linked
  exact ⟨child, inTree⟩

theorem HostingTree.WellFormed.exists_root (wellFormed : front.WellFormed) {group : HostGroup}
    (member : group ∈ front.groups) {label : String} {id : HostId} (linked : group.root? label = some id) :
    ∃ root, front.host? id = some root := by
  obtain ⟨position, held⟩ := Array.mem_iff_getElem?.mp member
  obtain ⟨root, inTree, _⟩ := ((wellFormed.roots position group held).lookup_iff label id).mp linked
  exact ⟨root, inTree⟩

theorem HostingTree.descend_append (wellFormed : front.WellFormed) {host : VirtualHost}
    (member : host ∈ front.hosts) :
    (front.append back).descend host labels = front.descend host labels := by
  induction labels generalizing host with
  | nil => rfl
  | cons label rest ih =>
    rw [HostingTree.descend, HostingTree.descend]
    cases linked : host.child? label with
    | none => exact HostingTree.bind_host?_append fun id found => wellFormed.exists_child member found
    | some id =>
      obtain ⟨child, held⟩ := wellFormed.exists_child member linked
      dsimp only
      rw [HostingTree.host?_append_of_held front back held, held]
      exact ih (Array.mem_of_getElem? held)

theorem HostingTree.findHost_append (wellFormed : front.WellFormed) {group : HostGroup}
    (member : group ∈ front.groups) :
    (front.append back).findHost group labels = front.findHost group labels := by
  unfold HostingTree.findHost
  cases labels.reverse with
  | nil => rfl
  | cons last rest =>
    dsimp only
    rw [HostingTree.bind_host?_append fun id found => wellFormed.exists_root member found]
    cases top : (group.root? last).bind front.host? with
    | none => rfl
    | some root =>
      obtain ⟨id, _, held⟩ := Option.bind_eq_some_iff.mp top
      exact HostingTree.descend_append wellFormed (Array.mem_of_getElem? held)

theorem HostingTree.firstHost?_append (wellFormed : front.WellFormed) {groups : List HostGroup}
    (members : ∀ group ∈ groups, group ∈ front.groups) :
    (front.append back).firstHost? labels usable groups = front.firstHost? labels usable groups := by
  induction groups with
  | nil => rfl
  | cons group rest ih =>
    rw [HostingTree.firstHost?_cons, HostingTree.firstHost?_cons,
      HostingTree.findHost_append wellFormed (members group List.mem_cons_self),
      ih fun other member => members other (List.mem_cons_of_mem group member)]

end Front

section Behind

variable (front : HostingTree) {back : HostingTree} {labels : List String} {usable : VirtualHost → Bool}

theorem VirtualHost.serves_behind (host : VirtualHost) (port : Port) :
    (host.behind front).serves port = host.serves port := by
  rw [VirtualHost.serves, VirtualHost.rootMount?, VirtualHost.portMount?_behind, VirtualHost.serves,
    VirtualHost.rootMount?]
  cases host.portMount? port with
  | none => rfl
  | some entry => simp [PortMount.behind]

theorem VirtualHost.standsIn_behind (host : VirtualHost) (port : Port) :
    (host.behind front).standsIn port = host.standsIn port := by
  rw [VirtualHost.standsIn, VirtualHost.standsIn, VirtualHost.serves_behind,
    VirtualHost.portMount?_behind, Option.isNone_map]

/-- Links of a node that moves behind others lead to the nodes that
move with it. -/
theorem HostingTree.bind_host?_behind (link : Option HostId) :
    (link.map (front.hosts.size + ·)).bind (front.append back).host? =
      (link.bind back.host?).map (·.behind front) := by
  cases link with
  | none => rfl
  | some id => exact front.host?_append back id

theorem HostingTree.descend_behind (host : VirtualHost) :
    (front.append back).descend (host.behind front) labels =
      (back.descend host labels).map (·.behind front) := by
  induction labels generalizing host with
  | nil => rfl
  | cons label rest ih =>
    rw [HostingTree.descend, HostingTree.descend, VirtualHost.child?_behind]
    cases host.child? label with
    | none =>
      simp only [Option.map_none, HostingTree.childHost?, VirtualHost.child?_behind,
        HostingTree.bind_host?_behind]
    | some id =>
      dsimp only [Option.map_some]
      rw [HostingTree.host?_append]
      cases back.host? id with
      | none => rfl
      | some child => exact ih child

theorem HostingTree.findHost_behind (group : HostGroup) :
    (front.append back).findHost (group.behind front) labels =
      (back.findHost group labels).map (·.behind front) := by
  unfold HostingTree.findHost
  cases labels.reverse with
  | nil => rfl
  | cons last rest =>
    dsimp only
    rw [HostGroup.root?_behind, HostingTree.bind_host?_behind]
    cases (group.root? last).bind back.host? with
    | none => rfl
    | some root => exact front.descend_behind root

theorem HostingTree.firstHost?_behind (stable : ∀ host : VirtualHost, usable (host.behind front) = usable host)
    (groups : List HostGroup) :
    (front.append back).firstHost? labels usable (groups.map (·.behind front)) =
      (back.firstHost? labels usable groups).map (·.behind front) := by
  induction groups with
  | nil => rfl
  | cons group rest ih =>
    rw [List.map_cons, HostingTree.firstHost?_cons, HostingTree.firstHost?_cons,
      HostingTree.findHost_behind, ih, Option.map_or, Option.filter_map]
    simp only [Function.comp_def, stable]

end Behind

/-- A search in a tree behind another one: what is found in front comes first. -/
theorem HostingTree.firstHost?_groups_append {front back : HostingTree} {labels : List String}
    {usable : VirtualHost → Bool} (wellFormed : front.WellFormed)
    (stable : ∀ host : VirtualHost, usable (host.behind front) = usable host) :
    (front.append back).firstHost? labels usable (front.append back).groups.toList =
      (front.firstHost? labels usable front.groups.toList).or
        ((back.firstHost? labels usable back.groups.toList).map (·.behind front)) := by
  have groups : (front.append back).groups.toList =
      front.groups.toList ++ back.groups.toList.map (·.behind front) := by
    simp [HostingTree.append]
  have inFront : (front.append back).firstHost? labels usable front.groups.toList =
      front.firstHost? labels usable front.groups.toList :=
    HostingTree.firstHost?_append wellFormed fun _ member => Array.mem_toList_iff.mp member
  rw [groups, ← inFront, ← HostingTree.firstHost?_behind front stable]
  exact List.findSome?_append

def HostingTree.serving? (tree : HostingTree) (name : String) (port : Port) : Option VirtualHost :=
  tree.firstHost? (hostLabels name) (·.serves port) tree.groups.toList

def HostingTree.standIn? (tree : HostingTree) (name : String) (port : Port) : Option VirtualHost :=
  tree.firstHost? (hostLabels name) (·.standsIn port) tree.groups.toList

/-- The answer of a tree behind another one, whose nodes have moved. -/
def ResolvedHost.behind (front : HostingTree) (found : ResolvedHost) : ResolvedHost :=
  { found with tree := front.append found.tree, host := found.host.behind front }

section Match

variable {tree front back : HostingTree} {name : String} {port : Port}

theorem HostingTree.matchHost_eq (tree : HostingTree) (name : String) (port : Port) :
    tree.matchHost name port =
      ((tree.serving? name port).map fun host => ⟨tree, host, name, port, port⟩).or
        ((tree.standIn? name port).map fun host => ⟨tree, host, name, port, anyPort⟩) := by
  rw [HostingTree.matchHost, HostingTree.chooseHost_eq, Option.none_or, Option.map_or, Option.map_map,
    Option.map_map]
  rfl

theorem HostingTree.serving?_eq_none_iff : tree.serving? name port = none ↔
    ∀ group ∈ tree.groups, ∀ host, tree.findHost group (hostLabels name) = some host →
      host.rootMount? port = none := by
  rw [HostingTree.serving?, HostingTree.firstHost?, List.findSome?_eq_none_iff]
  simp [Option.filter_eq_none_iff, VirtualHost.serves]

/-- Nobody stands in for a request without a port: there the entry for
any port is the exact one. -/
theorem HostingTree.ne_anyPort_of_standIn {host : VirtualHost} (found : tree.standIn? name port = some host) :
    port ≠ anyPort := by
  obtain ⟨group, _, standsIn⟩ := List.exists_of_findSome?_eq_some found
  have usable := Option.filter_eq_some_iff.mp standsIn
  simp only [VirtualHost.standsIn, Bool.and_eq_true, bne_iff_ne] at usable
  exact usable.2.1.1

/-- A match through another port than the one asked for is that of a
host standing in. -/
theorem HostingTree.matchHost_eq_some {found : ResolvedHost} (finds : tree.matchHost name port = some found) :
    (∃ host, tree.serving? name port = some host ∧ found = ⟨tree, host, name, port, port⟩) ∨
      tree.serving? name port = none ∧ port ≠ anyPort ∧
        ∃ host, tree.standIn? name port = some host ∧ found = ⟨tree, host, name, port, anyPort⟩ := by
  rw [HostingTree.matchHost_eq] at finds
  cases exact : tree.serving? name port with
  | some host =>
    rw [exact] at finds
    exact .inl ⟨host, rfl, (Option.some.inj finds).symm⟩
  | none =>
    rw [exact, Option.map_none, Option.none_or] at finds
    obtain ⟨host, standsIn, rfl⟩ := Option.map_eq_some_iff.mp finds
    exact .inr ⟨rfl, HostingTree.ne_anyPort_of_standIn standsIn, host, standsIn, rfl⟩

theorem HostingTree.matchHost_append (wellFormed : front.WellFormed) (back : HostingTree) (name : String)
    (port : Port) : (front.append back).matchHost name port =
      (((front.serving? name port).or ((back.serving? name port).map (·.behind front))).map
        fun host => ⟨front.append back, host, name, port, port⟩).or
      (((front.standIn? name port).or ((back.standIn? name port).map (·.behind front))).map
        fun host => ⟨front.append back, host, name, port, anyPort⟩) := by
  have serving : (front.append back).serving? name port =
      (front.serving? name port).or ((back.serving? name port).map (·.behind front)) :=
    HostingTree.firstHost?_groups_append wellFormed fun host => host.serves_behind front port
  have standIn : (front.append back).standIn? name port =
      (front.standIn? name port).or ((back.standIn? name port).map (·.behind front)) :=
    HostingTree.firstHost?_groups_append wellFormed fun host => host.standsIn_behind front port
  rw [HostingTree.matchHost_eq, serving, standIn]

theorem HostingTree.matchHost_append_of_exact (wellFormed : front.WellFormed) {found : ResolvedHost}
    (finds : front.matchHost name port = some found) (exact : found.matchedPort = port) :
    (front.append back).matchHost name port = some { found with tree := front.append back } := by
  rw [HostingTree.matchHost_append wellFormed]
  rcases HostingTree.matchHost_eq_some finds with ⟨host, serving, rfl⟩ | ⟨_, ported, host, _, rfl⟩
  · rw [serving]
    rfl
  · exact absurd exact.symm ported

/-- A host that stands in is found if nobody behind has an entry for
exactly the port. -/
theorem HostingTree.matchHost_append_of_unserved (wellFormed : front.WellFormed) {found : ResolvedHost}
    (finds : front.matchHost name port = some found) (unserved : back.serving? name port = none) :
    (front.append back).matchHost name port = some { found with tree := front.append back } := by
  rw [HostingTree.matchHost_append wellFormed, unserved]
  rcases HostingTree.matchHost_eq_some finds with ⟨host, serving, rfl⟩ | ⟨unserving, _, host, standsIn, rfl⟩
  · rw [serving]
    rfl
  · rw [unserving, standsIn]
    rfl

/-- An entry for exactly the port is found before a host that stands
in, wherever it is. -/
theorem HostingTree.matchHost_append_of_overtaken (wellFormed : front.WellFormed) {found other : ResolvedHost}
    (finds : front.matchHost name port = some found) (standsIn : found.matchedPort ≠ port)
    (findsToo : back.matchHost name port = some other) (exact : other.matchedPort = port) :
    (front.append back).matchHost name port = some (other.behind front) := by
  rw [HostingTree.matchHost_append wellFormed]
  rcases HostingTree.matchHost_eq_some finds with ⟨host, _, rfl⟩ | ⟨unserving, _, host, _, rfl⟩
  · exact absurd rfl standsIn
  rcases HostingTree.matchHost_eq_some findsToo with ⟨host, serving, rfl⟩ | ⟨_, ported, host, _, rfl⟩
  · rw [unserving, serving]
    rfl
  · exact absurd exact.symm ported

/-- Where nothing is found in front, the tree behind answers as it does alone. -/
theorem HostingTree.matchHost_append_of_missing (wellFormed : front.WellFormed)
    (missing : front.matchHost name port = none) :
    (front.append back).matchHost name port = (back.matchHost name port).map (·.behind front) := by
  rw [HostingTree.matchHost_eq, Option.or_eq_none_iff, Option.map_eq_none_iff, Option.map_eq_none_iff] at missing
  obtain ⟨unserving, nobody⟩ := missing
  rw [HostingTree.matchHost_append wellFormed, unserving, nobody, HostingTree.matchHost_eq, Option.none_or,
    Option.none_or, Option.map_or, Option.map_map, Option.map_map, Option.map_map, Option.map_map]
  rfl

end Match

end SiteRouting
