import Mathlib
import SiteRouting.Proofs.Build.Lineage

namespace SiteRouting

inductive Branch where
  | host (node : HostNode)
  | port (node : PortNode)
  | mount (node : MountNode)
  deriving Repr

/-- A subtree that is cut off because it cannot be built, and the
issue that says so. -/
structure Cut where
  branch : Branch
  issue : Issue
  deriving Repr

/-- What stays of a part of a configuration, and what was cut off from it. -/
structure Pruned (α : Type) where
  kept : α
  cuts : List Cut := []
  deriving Repr

def Pruned.cons {α : Type} (here : Pruned α) (others : Pruned (List α)) : Pruned (List α) :=
  ⟨here.kept :: others.kept, here.cuts ++ others.cuts⟩

def Pruned.afterCut {α : Type} (cut : Cut) (others : Pruned (List α)) : Pruned (List α) :=
  { others with cuts := cut :: others.cuts }

/-- Why a mount cannot be built below the given ones, beside siblings
of the given names. -/
def MountLineage.obstacle? (above : MountLineage) (config : Configuration) (own : MountSettings)
    (siblings : List String) : Option Fault :=
  match ((above.below own).properties config.hosts).contentPaths config.sites with
  | .error fault => some fault
  | .ok _ => if own.name ∈ siblings then some (.duplicateMount above.mountPath own.name) else none

mutual

/-- Prunes a mount beside siblings of the given names, which are those that
stay of the ones before it. -/
def MountNode.prune (config : Configuration) (above : MountLineage) (siblings : List String) :
    MountNode → Except Cut (Pruned MountNode)
  | .node own mounts =>
    match above.obstacle? config own siblings with
    | some fault => .error ⟨.mount (.node own mounts), (above.below own).location, fault⟩
    | none =>
      let below := MountNode.pruneAll config (above.below own) [] mounts
      .ok ⟨.node own below.kept, below.cuts⟩

def MountNode.pruneAll (config : Configuration) (above : MountLineage) (siblings : List String) :
    List MountNode → Pruned (List MountNode)
  | [] => ⟨[], []⟩
  | mount :: rest =>
    match mount.prune config above siblings with
    | .error cut => (MountNode.pruneAll config above siblings rest).afterCut cut
    | .ok here =>
      here.cons (MountNode.pruneAll config above (siblings ++ [mount.settings.name]) rest)

end

/-- Prunes a port entry beside entries for the given ports. An entry
goes with its root mount. -/
def PortNode.prune (config : Configuration) (host : HostLineage) (bound : List Port) (node : PortNode) :
    Except Cut (Pruned PortNode) :=
  if node.port ∈ bound then
    .error ⟨.port node, s!"{host.location}:{node.port}", .duplicatePortMount host.hostName node.port⟩
  else match node.root with
    | none => .ok ⟨node, []⟩
    | some root =>
      match root.prune config { host, port := node.port } [] with
      | .error cut => .error { cut with branch := .port node }
      | .ok here => .ok ⟨{ node with root := some here.kept }, here.cuts⟩

def PortNode.pruneAll (config : Configuration) (host : HostLineage) (bound : List Port) :
    List PortNode → Pruned (List PortNode)
  | [] => ⟨[], []⟩
  | node :: rest =>
    match node.prune config host bound with
    | .error cut => (PortNode.pruneAll config host bound rest).afterCut cut
    | .ok here => here.cons (PortNode.pruneAll config host (bound ++ [node.port]) rest)

def rootEntries (root : Option MountNode) : List PortNode :=
  root.toList.map fun mount => ⟨anyPort, some mount⟩

mutual

/-- Prunes a host, with its port entries and the hosts below it. Its own root
mount stands in front of the other port entries. -/
def HostNode.prune (config : Configuration) (above : HostLineage) :
    HostNode → Except Cut (Pruned HostNode)
  | .node own root ports hosts =>
    match nodeLabels own.name with
    | .error fault => .error ⟨.host (.node own root ports hosts), above.locationBelow own.name, fault⟩
    | .ok _ =>
      let here := above.below own
      let top := PortNode.pruneAll config here [] (rootEntries root)
      let others := PortNode.pruneAll config here (top.kept.map (·.port)) ports
      let below := HostNode.pruneAll config here hosts
      .ok ⟨.node own (top.kept.head?.bind (·.root)) others.kept below.kept,
        top.cuts ++ others.cuts ++ below.cuts⟩

def HostNode.pruneAll (config : Configuration) (above : HostLineage) :
    List HostNode → Pruned (List HostNode)
  | [] => ⟨[], []⟩
  | host :: rest =>
    match host.prune config above with
    | .error cut => (HostNode.pruneAll config above rest).afterCut cut
    | .ok here => here.cons (HostNode.pruneAll config above rest)

end

def GroupNode.prune (config : Configuration) (group : GroupNode) : Pruned GroupNode :=
  let hosts := HostNode.pruneAll config { group := group.name } group.hosts
  ⟨{ group with hosts := hosts.kept }, hosts.cuts⟩

/-- A configuration without the subtrees that cannot be built, and the cuts
in declared order. Which node of several with one name stays depends on the
nodes before it that stay themselves. -/
def Configuration.prune (config : Configuration) : Pruned Configuration where
  kept := { config with hostGroups := config.hostGroups.map fun group => (group.prune config).kept }
  cuts := config.hostGroups.flatMap fun group => (group.prune config).cuts

section Kept

variable {config : Configuration}

theorem PortNode.prune_port {host : HostLineage} {bound : List Port} {node : PortNode}
    {here : Pruned PortNode} (stays : node.prune config host bound = .ok here) :
    here.kept.port = node.port := by
  unfold PortNode.prune at stays
  split at stays
  · cases stays
  split at stays
  · cases stays
    rfl
  split at stays
  · cases stays
  · cases stays
    rfl

/-- The entries of two lists are pruned one after another: those behind
see the ports that stayed. -/
theorem PortNode.pruneAll_append (config : Configuration) (host : HostLineage) (bound : List Port)
    (front back : List PortNode) :
    let first := PortNode.pruneAll config host bound front
    let second := PortNode.pruneAll config host (bound ++ first.kept.map (·.port)) back
    PortNode.pruneAll config host bound (front ++ back) =
      ⟨first.kept ++ second.kept, first.cuts ++ second.cuts⟩ := by
  induction front generalizing bound with
  | nil => simp [PortNode.pruneAll]
  | cons node rest ih =>
    simp only [List.cons_append, PortNode.pruneAll]
    cases pruned : node.prune config host bound with
    | error cut => simp only [ih, Pruned.afterCut, List.cons_append]
    | ok here =>
      simp only [ih, Pruned.cons, List.map_cons, PortNode.prune_port pruned, List.cons_append,
        List.append_assoc, List.nil_append]

/-- What stays of a root mount's entry is the entry of a root mount again. -/
theorem rootEntries_pruneAll (config : Configuration) (host : HostLineage) (root : Option MountNode) :
    let top := PortNode.pruneAll config host [] (rootEntries root)
    rootEntries (top.kept.head?.bind (·.root)) = top.kept := by
  cases root with
  | none => rfl
  | some mount =>
    simp only [rootEntries, Option.toList_some, List.map_singleton, PortNode.pruneAll, PortNode.prune,
      List.not_mem_nil, if_false]
    cases mount.prune config { host, port := anyPort } [] with
    | error cut => rfl
    | ok here => rfl

/-- A host that stays keeps its settings; its port entries, the root mount's
among them, are pruned one after another, and so are the hosts below. -/
theorem HostNode.prune_eq_ok {above : HostLineage} {own : HostSettings} {root : Option MountNode}
    {ports : List PortNode} {hosts : List HostNode} {here : Pruned HostNode}
    (stays : (HostNode.node own root ports hosts).prune config above = .ok here) :
    let nodes := (HostNode.node own root ports hosts).portNodes
    let entries := PortNode.pruneAll config (above.below own) [] nodes
    let below := HostNode.pruneAll config (above.below own) hosts
    ∃ labels keptRoot keptPorts, nodeLabels own.name = .ok labels ∧
      here.kept = .node own keptRoot keptPorts below.kept ∧ here.kept.portNodes = entries.kept ∧
      here.cuts = entries.cuts ++ below.cuts := by
  rw [HostNode.prune] at stays
  split at stays
  · cases stays
  rename_i labels labelled
  cases stays
  have entries := rootEntries_pruneAll config (above.below own) root
  have split := PortNode.pruneAll_append config (above.below own) [] (rootEntries root) ports
  simp only [rootEntries, HostNode.portNodes] at entries split ⊢
  refine ⟨labels, _, _, labelled, rfl, ?_, ?_⟩
  · rw [split, entries]
    rfl
  · rw [split]
    rfl

end Kept

inductive DeclaredNode where
  | host (own : HostSettings)
  | port (port : Port)
  | mount (own : MountSettings)
  deriving DecidableEq, Repr

mutual

def MountNode.declared : MountNode → List DeclaredNode
  | .node own mounts => .mount own :: MountNode.declaredByAll mounts

def MountNode.declaredByAll : List MountNode → List DeclaredNode
  | [] => []
  | mount :: rest => mount.declared ++ MountNode.declaredByAll rest

end

def PortNode.declared (node : PortNode) : List DeclaredNode :=
  .port node.port :: node.root.toList.flatMap MountNode.declared

mutual

/-- A host node and all nodes below it. A root mount of its own
declares an entry for any port. -/
def HostNode.declared : HostNode → List DeclaredNode
  | .node own root ports hosts =>
    .host own :: ((HostNode.portNodes (.node own root ports hosts)).flatMap PortNode.declared ++
      HostNode.declaredByAll hosts)

def HostNode.declaredByAll : List HostNode → List DeclaredNode
  | [] => []
  | host :: rest => host.declared ++ HostNode.declaredByAll rest

end

def Branch.declared : Branch → List DeclaredNode
  | .host node => node.declared
  | .port node => node.declared
  | .mount node => node.declared

def Configuration.declared (config : Configuration) : List DeclaredNode :=
  config.hostGroups.flatMap fun group => HostNode.declaredByAll group.hosts

def declaredByCuts (cuts : List Cut) : List DeclaredNode :=
  cuts.flatMap fun cut => cut.branch.declared

section Conservation

variable {config : Configuration}

/-- What is split in two parts is split in two when it stands behind
something that is as well. -/
theorem perm_append_of_split {α : Type} {front back frontKept backKept frontCut backCut : List α}
    (first : front.Perm (frontKept ++ frontCut)) (second : back.Perm (backKept ++ backCut)) :
    (front ++ back).Perm ((frontKept ++ backKept) ++ (frontCut ++ backCut)) := by
  refine (first.append second).trans ?_
  rw [List.append_assoc, List.append_assoc]
  refine List.Perm.append_left _ ?_
  rw [← List.append_assoc, ← List.append_assoc]
  exact List.Perm.append_right _ List.perm_append_comm

theorem perm_append_cut {α : Type} {front back kept cut : List α} (rest : back.Perm (kept ++ cut)) :
    (front ++ back).Perm (kept ++ (front ++ cut)) := by
  simpa using perm_append_of_split (List.Perm.refl ([] ++ front)) rest

theorem MountNode.branch_of_cut {above : MountLineage} {siblings : List String} {node : MountNode}
    {cut : Cut} (pruned : node.prune config above siblings = .error cut) :
    cut.branch = .mount node := by
  cases node
  rw [MountNode.prune] at pruned
  split at pruned
  · cases pruned
    rfl
  · cases pruned

mutual

theorem MountNode.declared_perm {above : MountLineage} {siblings : List String} :
    (node : MountNode) → {here : Pruned MountNode} → node.prune config above siblings = .ok here →
    node.declared.Perm (here.kept.declared ++ declaredByCuts here.cuts)
  | .node own mounts, here, pruned => by
    rw [MountNode.prune] at pruned
    split at pruned
    · cases pruned
    · cases pruned
      rw [MountNode.declared, MountNode.declared]
      exact (MountNode.declaredByAll_perm mounts).cons _

theorem MountNode.declaredByAll_perm {above : MountLineage} {siblings : List String} :
    (nodes : List MountNode) →
    (MountNode.declaredByAll nodes).Perm
      (MountNode.declaredByAll (MountNode.pruneAll config above siblings nodes).kept ++
        declaredByCuts (MountNode.pruneAll config above siblings nodes).cuts)
  | [] => by
    rw [MountNode.pruneAll]
    exact .refl _
  | mount :: rest => by
    rw [MountNode.declaredByAll]
    cases pruned : mount.prune config above siblings with
    | error cut =>
      simp only [MountNode.pruneAll, pruned, Pruned.afterCut, declaredByCuts, List.flatMap_cons,
        MountNode.branch_of_cut pruned]
      exact perm_append_cut (MountNode.declaredByAll_perm rest)
    | ok here =>
      simp only [MountNode.pruneAll, pruned, Pruned.cons, MountNode.declaredByAll, declaredByCuts,
        List.flatMap_append]
      exact perm_append_of_split (MountNode.declared_perm mount pruned)
        (MountNode.declaredByAll_perm rest)

end

theorem PortNode.branch_of_cut {host : HostLineage} {bound : List Port} {node : PortNode} {cut : Cut}
    (pruned : node.prune config host bound = .error cut) : cut.branch = .port node := by
  unfold PortNode.prune at pruned
  split at pruned
  · cases pruned
    rfl
  split at pruned
  · cases pruned
  split at pruned
  · cases pruned
    rfl
  · cases pruned

theorem PortNode.declared_perm {host : HostLineage} {bound : List Port} {node : PortNode}
    {here : Pruned PortNode} (pruned : node.prune config host bound = .ok here) :
    node.declared.Perm (here.kept.declared ++ declaredByCuts here.cuts) := by
  unfold PortNode.prune at pruned
  split at pruned
  · cases pruned
  split at pruned
  · cases pruned
    simp [declaredByCuts]
  rename_i root isRoot
  split at pruned
  · cases pruned
  rename_i keptRoot prunedRoot
  cases pruned
  have below := MountNode.declared_perm root prunedRoot
  simpa [PortNode.declared, isRoot] using below

theorem PortNode.declared_pruneAll_perm {host : HostLineage} (bound : List Port) (nodes : List PortNode) :
    (nodes.flatMap PortNode.declared).Perm
      ((PortNode.pruneAll config host bound nodes).kept.flatMap PortNode.declared ++
        declaredByCuts (PortNode.pruneAll config host bound nodes).cuts) := by
  induction nodes generalizing bound with
  | nil => exact .refl _
  | cons node rest ih =>
    rw [List.flatMap_cons]
    cases pruned : node.prune config host bound with
    | error cut =>
      simp only [PortNode.pruneAll, pruned, Pruned.afterCut, declaredByCuts, List.flatMap_cons,
        PortNode.branch_of_cut pruned]
      exact perm_append_cut (ih bound)
    | ok here =>
      simp only [PortNode.pruneAll, pruned, Pruned.cons, declaredByCuts, List.flatMap_cons,
        List.flatMap_append]
      exact perm_append_of_split (PortNode.declared_perm pruned) (ih _)

theorem HostNode.branch_of_cut {above : HostLineage} {node : HostNode} {cut : Cut}
    (pruned : node.prune config above = .error cut) : cut.branch = .host node := by
  cases node
  rw [HostNode.prune] at pruned
  split at pruned
  · cases pruned
    rfl
  · cases pruned

mutual

theorem HostNode.declared_perm {above : HostLineage} :
    (node : HostNode) → {here : Pruned HostNode} → node.prune config above = .ok here →
    node.declared.Perm (here.kept.declared ++ declaredByCuts here.cuts)
  | .node own root ports hosts, here, pruned => by
    obtain ⟨_, keptRoot, keptPorts, _, same, entries, cuts⟩ := HostNode.prune_eq_ok pruned
    rw [same] at entries
    rw [same, cuts, HostNode.declared, HostNode.declared, entries, declaredByCuts, List.flatMap_append]
    exact (perm_append_of_split (PortNode.declared_pruneAll_perm [] _)
      (HostNode.declaredByAll_perm hosts)).cons _

theorem HostNode.declaredByAll_perm {above : HostLineage} :
    (nodes : List HostNode) →
    (HostNode.declaredByAll nodes).Perm
      (HostNode.declaredByAll (HostNode.pruneAll config above nodes).kept ++
        declaredByCuts (HostNode.pruneAll config above nodes).cuts)
  | [] => by
    rw [HostNode.pruneAll]
    exact .refl _
  | host :: rest => by
    rw [HostNode.declaredByAll]
    cases pruned : host.prune config above with
    | error cut =>
      simp only [HostNode.pruneAll, pruned, Pruned.afterCut, declaredByCuts, List.flatMap_cons,
        HostNode.branch_of_cut pruned]
      exact perm_append_cut (HostNode.declaredByAll_perm rest)
    | ok here =>
      simp only [HostNode.pruneAll, pruned, Pruned.cons, HostNode.declaredByAll, declaredByCuts,
        List.flatMap_append]
      exact perm_append_of_split (HostNode.declared_perm host pruned) (HostNode.declaredByAll_perm rest)

end

/-- Every node that a configuration declares stays or is in exactly
one of the branches cut off. -/
theorem Configuration.declared_perm (config : Configuration) :
    config.declared.Perm (config.prune.kept.declared ++ declaredByCuts config.prune.cuts) := by
  have split (groups : List GroupNode) :
      (groups.flatMap fun group => HostNode.declaredByAll group.hosts).Perm
        (((groups.map fun group => (group.prune config).kept).flatMap fun group =>
          HostNode.declaredByAll group.hosts) ++
          declaredByCuts (groups.flatMap fun group => (group.prune config).cuts)) := by
    induction groups with
    | nil => exact .refl _
    | cons group rest ih =>
      simp only [List.map_cons, List.flatMap_cons, declaredByCuts, List.flatMap_append]
      exact perm_append_of_split (HostNode.declaredByAll_perm group.hosts) ih
  exact split config.hostGroups

end Conservation

end SiteRouting
