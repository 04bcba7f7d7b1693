import Mathlib
import SiteRouting.Proofs.Build.Pruning

namespace SiteRouting

/-- What a mount's properties are warned of when content paths are
derived from them. -/
def MountProperties.contentWarnings (properties : MountProperties) (sites : List SiteNode) : List Fault :=
  match properties.contentPaths sites with
  | .error _ => []
  | .ok (_, warnings) => warnings

/-- A mount that a build comes to, and whether it is built. Nothing below a mount
that is left out is come to, and nothing below a port entry or a host that is. -/
structure MountVisit where
  lineage : MountLineage
  stays : Bool
  deriving DecidableEq, Repr

def MountVisit.warnings (config : Configuration) (visit : MountVisit) : List Fault :=
  (visit.lineage.properties config.hosts).contentWarnings config.sites

def MountVisit.issues (config : Configuration) (visit : MountVisit) : List Issue :=
  (visit.warnings config).map fun fault => ⟨visit.lineage.location, fault⟩

mutual

/-- The visits to a mount beside siblings of the given names, and to
the mounts below. -/
def MountNode.visits (config : Configuration) (above : MountLineage) (siblings : List String) :
    MountNode → List MountVisit
  | .node own mounts =>
    match above.obstacle? config own siblings with
    | some _ => [⟨above.below own, false⟩]
    | none => ⟨above.below own, true⟩ :: MountNode.visitsOfAll config (above.below own) [] mounts

def MountNode.visitsOfAll (config : Configuration) (above : MountLineage) (siblings : List String) :
    List MountNode → List MountVisit
  | [] => []
  | mount :: rest =>
    mount.visits config above siblings ++
      match mount.prune config above siblings with
      | .error _ => MountNode.visitsOfAll config above siblings rest
      | .ok _ => MountNode.visitsOfAll config above (siblings ++ [mount.settings.name]) rest

end

/-- The visits to the mount tree of a port entry beside entries for
the given ports. -/
def PortNode.visits (config : Configuration) (host : HostLineage) (bound : List Port) (node : PortNode) :
    List MountVisit :=
  if node.port ∈ bound then []
  else node.root.elim [] (MountNode.visits config { host, port := node.port } [])

def PortNode.visitsOfAll (config : Configuration) (host : HostLineage) (bound : List Port) :
    List PortNode → List MountVisit
  | [] => []
  | node :: rest =>
    node.visits config host bound ++
      match node.prune config host bound with
      | .error _ => PortNode.visitsOfAll config host bound rest
      | .ok _ => PortNode.visitsOfAll config host (bound ++ [node.port]) rest

mutual

def HostNode.visits (config : Configuration) (above : HostLineage) : HostNode → List MountVisit
  | .node own root ports hosts =>
    match nodeLabels own.name with
    | .error _ => []
    | .ok _ =>
      PortNode.visitsOfAll config (above.below own) [] (HostNode.portNodes (.node own root ports hosts)) ++
        HostNode.visitsOfAll config (above.below own) hosts

def HostNode.visitsOfAll (config : Configuration) (above : HostLineage) : List HostNode → List MountVisit
  | [] => []
  | host :: rest => host.visits config above ++ HostNode.visitsOfAll config above rest

end

def GroupNode.visits (config : Configuration) (group : GroupNode) : List MountVisit :=
  HostNode.visitsOfAll config { group := group.name } group.hosts

/-- The mounts that a build comes to, in the order of coming: those that it
links and those that it leaves out. -/
def Configuration.visits (config : Configuration) : List MountVisit :=
  config.hostGroups.flatMap (GroupNode.visits config)

/-- Visits told apart: the mounts that stay, and others at the
locations of cuts. -/
structure VisitsSplit (visits : List MountVisit) (kept : List MountLineage) (cuts : List Cut) : Prop where
  kept : (visits.filter (·.stays)).map (·.lineage) = kept
  left : ∀ visit ∈ visits, visit.stays = false → ∃ cut ∈ cuts, cut.issue.location = visit.lineage.location

section Split

variable {config : Configuration} {visits more : List MountVisit} {kept moreKept : List MountLineage}
  {cuts moreCuts : List Cut}

theorem visitsSplit_nil (cuts : List Cut) : VisitsSplit [] [] cuts :=
  ⟨rfl, fun _ impossible => absurd impossible List.not_mem_nil⟩

theorem VisitsSplit.append (first : VisitsSplit visits kept cuts)
    (second : VisitsSplit more moreKept moreCuts) :
    VisitsSplit (visits ++ more) (kept ++ moreKept) (cuts ++ moreCuts) where
  kept := by rw [List.filter_append, List.map_append, first.kept, second.kept]
  left visit member isLeft := by
    rcases List.mem_append.mp member with here | there
    · obtain ⟨cut, inCuts, located⟩ := first.left visit here isLeft
      exact ⟨cut, List.mem_append_left _ inCuts, located⟩
    · obtain ⟨cut, inCuts, located⟩ := second.left visit there isLeft
      exact ⟨cut, List.mem_append_right _ inCuts, located⟩

theorem VisitsSplit.cons (split : VisitsSplit visits kept cuts) (lineage : MountLineage) :
    VisitsSplit (⟨lineage, true⟩ :: visits) (lineage :: kept) cuts where
  kept := by
    rw [List.filter_cons_of_pos rfl, List.map_cons, split.kept]
  left visit member isLeft := by
    rcases List.mem_cons.mp member with rfl | later
    · cases isLeft
    · exact split.left visit later isLeft

theorem MountNode.visitsSplit_of_cut {above : MountLineage} {siblings : List String} {node : MountNode}
    {cut : Cut} (pruned : node.prune config above siblings = .error cut) :
    VisitsSplit (node.visits config above siblings) [] [cut] := by
  obtain ⟨own, mounts⟩ := node
  rw [MountNode.prune] at pruned
  rw [MountNode.visits]
  cases blocked : above.obstacle? config own siblings with
  | some fault =>
    rw [blocked] at pruned
    cases pruned
    refine ⟨rfl, ?_⟩
    intro visit member _
    rw [List.mem_singleton.mp member]
    exact ⟨_, List.mem_cons_self, rfl⟩
  | none =>
    rw [blocked] at pruned
    cases pruned

-- The recursion is that of pruning, with one case for each way in which a mount may come out.
mutual

theorem MountNode.visitsSplit_of_kept {above : MountLineage} {siblings : List String} :
    (node : MountNode) → {here : Pruned MountNode} → node.prune config above siblings = .ok here →
    VisitsSplit (node.visits config above siblings) (here.kept.lineages above) here.cuts
  | .node own mounts, here, pruned => by
    rw [MountNode.prune] at pruned
    split at pruned
    · cases pruned
    rename_i clear
    cases pruned
    rw [MountNode.visits, clear, MountNode.lineages]
    exact (MountNode.visitsSplit_all mounts).cons _

theorem MountNode.visitsSplit_all {above : MountLineage} {siblings : List String} :
    (nodes : List MountNode) →
    VisitsSplit (MountNode.visitsOfAll config above siblings nodes)
      (MountNode.lineagesOfAll above (MountNode.pruneAll config above siblings nodes).kept)
      (MountNode.pruneAll config above siblings nodes).cuts
  | [] => by
    rw [MountNode.visitsOfAll, MountNode.pruneAll, MountNode.lineagesOfAll]
    exact visitsSplit_nil _
  | mount :: rest => by
    rw [MountNode.visitsOfAll]
    cases pruned : mount.prune config above siblings with
    | error cut =>
      simp only [MountNode.pruneAll, pruned, Pruned.afterCut]
      exact (MountNode.visitsSplit_of_cut pruned).append (MountNode.visitsSplit_all rest)
    | ok here =>
      simp only [MountNode.pruneAll, pruned, Pruned.cons, MountNode.lineagesOfAll]
      exact (MountNode.visitsSplit_of_kept mount pruned).append (MountNode.visitsSplit_all rest)

end

theorem PortNode.visitsSplit_of_cut {host : HostLineage} {bound : List Port} {node : PortNode} {cut : Cut}
    (pruned : node.prune config host bound = .error cut) :
    VisitsSplit (node.visits config host bound) [] [cut] := by
  rw [PortNode.prune] at pruned
  rw [PortNode.visits]
  split at pruned
  · rename_i known
    rw [if_pos known]
    exact visitsSplit_nil _
  rename_i free
  rw [if_neg free]
  split at pruned
  · cases pruned
  rename_i root isRoot
  split at pruned
  · rename_i rootCut prunedRoot
    cases pruned
    rw [isRoot]
    have split := MountNode.visitsSplit_of_cut prunedRoot
    refine ⟨split.kept, fun visit member isLeft => ?_⟩
    obtain ⟨same, inCut, located⟩ := split.left visit member isLeft
    rw [List.mem_singleton.mp inCut] at located
    exact ⟨_, List.mem_cons_self, located⟩
  · cases pruned

theorem PortNode.visitsSplit_of_kept {host : HostLineage} {bound : List Port} {node : PortNode}
    {here : Pruned PortNode} (pruned : node.prune config host bound = .ok here) :
    VisitsSplit (node.visits config host bound) (here.kept.lineages host) here.cuts := by
  rw [PortNode.prune] at pruned
  rw [PortNode.visits, PortNode.lineages]
  split at pruned
  · cases pruned
  rename_i free
  rw [if_neg free]
  split at pruned
  · rename_i rootless
    cases pruned
    rw [rootless]
    exact visitsSplit_nil _
  rename_i root isRoot
  split at pruned
  · cases pruned
  rename_i keptRoot prunedRoot
  cases pruned
  rw [isRoot]
  exact MountNode.visitsSplit_of_kept root prunedRoot

theorem PortNode.visitsSplit_all {host : HostLineage} (bound : List Port) (nodes : List PortNode) :
    VisitsSplit (PortNode.visitsOfAll config host bound nodes)
      ((PortNode.pruneAll config host bound nodes).kept.flatMap (PortNode.lineages host))
      (PortNode.pruneAll config host bound nodes).cuts := by
  induction nodes generalizing bound with
  | nil => exact visitsSplit_nil _
  | cons node rest ih =>
    rw [PortNode.visitsOfAll]
    cases pruned : node.prune config host bound with
    | error cut =>
      simp only [PortNode.pruneAll, pruned, Pruned.afterCut]
      exact (PortNode.visitsSplit_of_cut pruned).append (ih bound)
    | ok here =>
      simp only [PortNode.pruneAll, pruned, Pruned.cons, List.flatMap_cons]
      exact (PortNode.visitsSplit_of_kept pruned).append (ih _)

theorem HostNode.visitsSplit_of_cut {above : HostLineage} {node : HostNode} {cut : Cut}
    (pruned : node.prune config above = .error cut) : VisitsSplit (node.visits config above) [] [cut] := by
  obtain ⟨own, root, ports, hosts⟩ := node
  rw [HostNode.prune] at pruned
  rw [HostNode.visits]
  cases labelled : nodeLabels own.name with
  | error fault => exact visitsSplit_nil _
  | ok labels =>
    rw [labelled] at pruned
    cases pruned

mutual

theorem HostNode.visitsSplit_of_kept {above : HostLineage} :
    (node : HostNode) → {here : Pruned HostNode} → node.prune config above = .ok here →
    VisitsSplit (node.visits config above) (mountsOf (here.kept.preorder above)) here.cuts
  | .node own root ports hosts, here, pruned => by
    obtain ⟨labels, keptRoot, keptPorts, labelled, same, entries, cuts⟩ := HostNode.prune_eq_ok pruned
    rw [HostNode.visits, labelled, cuts, same, HostNode.preorder, ← same]
    simp only [mountsOf, List.flatMap_cons, HostNode.ownMounts, entries]
    rw [same]
    exact (PortNode.visitsSplit_all [] _).append (HostNode.visitsSplit_all hosts)

theorem HostNode.visitsSplit_all {above : HostLineage} :
    (nodes : List HostNode) →
    VisitsSplit (HostNode.visitsOfAll config above nodes)
      (mountsOf (HostNode.preorderOfAll above (HostNode.pruneAll config above nodes).kept))
      (HostNode.pruneAll config above nodes).cuts
  | [] => by
    rw [HostNode.visitsOfAll, HostNode.pruneAll, HostNode.preorderOfAll]
    exact visitsSplit_nil _
  | host :: rest => by
    rw [HostNode.visitsOfAll]
    cases pruned : host.prune config above with
    | error cut =>
      simp only [HostNode.pruneAll, pruned, Pruned.afterCut]
      exact (HostNode.visitsSplit_of_cut pruned).append (HostNode.visitsSplit_all rest)
    | ok here =>
      simp only [HostNode.pruneAll, pruned, Pruned.cons, HostNode.preorderOfAll, mountsOf,
        List.flatMap_append]
      exact (HostNode.visitsSplit_of_kept host pruned).append (HostNode.visitsSplit_all rest)

end

end Split

end SiteRouting
