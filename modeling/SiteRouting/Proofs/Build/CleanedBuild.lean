import Mathlib
import SiteRouting.Proofs.Build.Reports
import SiteRouting.Proofs.Tree.Restrictions

namespace SiteRouting

/-- A build without the values that hosts and mounts configure in vain,
beside the build with them. It links the same nodes, differs from the other
one in restrictions only, and lacks its warnings about these values. -/
structure BuildState.Mirrors (cleaned state : BuildState) : Prop where
  tree : cleaned.tree.unrestricted = state.tree.unrestricted
  index : cleaned.index = state.index
  issues : cleaned.issues = state.issues.filter (!·.isIgnoredValue)

inductive MirroredResult : BuildResult → BuildResult → Prop where
  | goesOn {cleaned state : BuildState} (mirrors : cleaned.Mirrors state) :
      MirroredResult (.ok cleaned) (.ok state)
  | ends {cleaned issues : List Issue} (same : cleaned = issues.filter (!·.isIgnoredValue)) :
      MirroredResult (.error cleaned) (.error issues)

def MountPlace.unrestricted (place : MountPlace) : MountPlace where
  host := place.host.unrestricted
  port := place.port
  parent := place.parent.map Mount.unrestricted

def AreHeeded (faults : List Fault) : Prop :=
  ∀ fault ∈ faults, fault.isIgnoredValue = false

section Faults

theorem ne_defaultsLocation_of_slash {location : String} (slash : '/' ∈ location.toList) :
    location ≠ defaultsLocation := by
  intro same
  rw [same] at slash
  exact absurd slash (by decide)

theorem slashed_ne_defaultsLocation (front back : String) : s!"{front}/{back}" ≠ defaultsLocation :=
  ne_defaultsLocation_of_slash (by simp [toString])

theorem hostLocation_ne_defaultsLocation (group name : String) (parent : Option VirtualHost) :
    hostLocation group name parent ≠ defaultsLocation := by
  refine ne_defaultsLocation_of_slash ?_
  cases parent <;> simp [hostLocation, toString]

theorem areHeeded_nil : AreHeeded [] :=
  List.forall_mem_nil _

theorem areHeeded_singleton {fault : Fault} (heeded : fault.isIgnoredValue = false) : AreHeeded [fault] :=
  List.forall_mem_singleton.mpr heeded

theorem areHeeded_of_severity {fault : Fault} {severity : Severity} (cost : fault.severity = severity)
    (severe : severity ≠ .warning) : AreHeeded [fault] := by
  refine areHeeded_singleton ?_
  subst cost
  cases fault <;> first | rfl | exact absurd rfl severe

theorem AreHeeded.append {a b : List Fault} (left : AreHeeded a) (right : AreHeeded b) :
    AreHeeded (a ++ b) :=
  List.forall_mem_append.mpr ⟨left, right⟩

theorem MountProperties.areHeeded_contentPaths {properties : MountProperties} {sites : List SiteNode}
    {content : ContentPaths} {warnings : List Fault}
    (derived : properties.contentPaths sites = .ok (content, warnings)) : AreHeeded warnings :=
  MountProperties.forall_warnings derived fun _ => rfl

theorem GroupNode.areHeeded_faults (group : GroupNode) : AreHeeded group.faults :=
  group.forall_faults fun _ => rfl

theorem MountIndex.areHeeded_add {index : MountIndex} {tree : HostingTree} (mount : Mount) :
    AreHeeded (index.add tree mount).2 :=
  fun fault member => by
    have conflict := MountIndex.add_conflicts mount fault member
    cases fault <;> first | rfl | cases conflict

theorem AreHeeded.filter_issuesAt {faults : List Fault} (heeded : AreHeeded faults) (location : String) :
    (issuesAt location faults).filter (!·.isIgnoredValue) = issuesAt location faults := by
  rw [List.filter_eq_self]
  intro issue member
  obtain ⟨fault, found, rfl⟩ := List.mem_map.mp member
  simp [Issue.isIgnoredValue, heeded fault found]

/-- Of the faults of a host or a mount the heeded ones stay, as
without the values in vain. -/
theorem NodeSettings.filter_issuesAt_faults (own : NodeSettings) {location : String} {faults : List Fault}
    (elsewhere : location ≠ defaultsLocation) (heeded : AreHeeded faults) :
    (issuesAt location (own.faults ++ faults)).filter (!·.isIgnoredValue) =
      issuesAt location (own.withoutIgnored.faults ++ faults) := by
  have dropped : (issuesAt location own.faults).filter (!·.isIgnoredValue) = [] := by
    rw [List.filter_eq_nil_iff]
    intro issue member
    obtain ⟨fault, found, rfl⟩ := List.mem_map.mp member
    simp [Issue.isIgnoredValue, own.isIgnoredValue_of_mem_faults found, elsewhere]
  have split (a b : List Fault) : issuesAt location (a ++ b) = issuesAt location a ++ issuesAt location b :=
    List.map_append
  rw [own.faults_withoutIgnored, List.nil_append, split, List.filter_append, dropped,
    heeded.filter_issuesAt location, List.nil_append]

end Faults

section Mirrors

variable {cleaned state : BuildState}

theorem exists_of_map_eq_map {ε α β : Type} {view : α → β} {x y : Except ε α}
    (same : x.map view = y.map view) :
    (∃ cause, x = .error cause ∧ y = .error cause) ∨ ∃ a b, x = .ok a ∧ y = .ok b ∧ view a = view b := by
  cases x with
  | error cause =>
    cases y with
    | error other =>
      cases same
      exact Or.inl ⟨cause, rfl, rfl⟩
    | ok b => cases same
  | ok a =>
    cases y with
    | error other => cases same
    | ok b => exact Or.inr ⟨a, b, rfl, rfl, Except.ok.inj same⟩

/-- The builds go on alike if one of them reports what is heeded of
the other one's faults. -/
theorem BuildState.Mirrors.reportHeeded (mirrors : cleaned.Mirrors state) {location : String}
    {heeded faults : List Fault}
    (found : (issuesAt location faults).filter (!·.isIgnoredValue) = issuesAt location heeded) :
    (cleaned.report location heeded).Mirrors (state.report location faults) where
  tree := mirrors.tree
  index := mirrors.index
  issues := by
    rw [issuesAt, issuesAt] at found
    rw [BuildState.report, BuildState.report, mirrors.issues, List.filter_append, found]

theorem BuildState.Mirrors.report (mirrors : cleaned.Mirrors state) (location : String) {faults : List Fault}
    (heeded : AreHeeded faults) : (cleaned.report location faults).Mirrors (state.report location faults) :=
  mirrors.reportHeeded (heeded.filter_issuesAt location)

theorem BuildState.Mirrors.reportOwn (mirrors : cleaned.Mirrors state) (own : NodeSettings)
    {location : String} (elsewhere : location ≠ defaultsLocation) {faults : List Fault}
    (heeded : AreHeeded faults) :
    (cleaned.report location (own.withoutIgnored.faults ++ faults)).Mirrors
      (state.report location (own.faults ++ faults)) :=
  mirrors.reportHeeded (own.filter_issuesAt_faults elsewhere heeded)

theorem BuildState.Mirrors.withTree {grown linked : HostingTree} (mirrors : cleaned.Mirrors state)
    (same : grown.unrestricted = linked.unrestricted) :
    BuildState.Mirrors { cleaned with tree := grown } { state with tree := linked } :=
  ⟨same, mirrors.index, mirrors.issues⟩

end Mirrors

section Mounts

variable (sites : List SiteNode) {cleaned state : BuildState} {place standIn : MountPlace}
  {above spared : MountProperties}

theorem MountPlace.unrestricted_detachedMount (place : MountPlace) (own : MountSettings)
    (properties : MountProperties) (content : ContentPaths) :
    (place.detachedMount own properties content).unrestricted =
      place.unrestricted.detachedMount own properties.unrestricted content := by
  have path : place.unrestricted.mountPath own.name = place.mountPath own.name := by
    rw [MountPlace.mountPath, MountPlace.mountPath, MountPlace.unrestricted]
    cases place.parent <;> rfl
  simp only [MountPlace.detachedMount, path]
  rfl

theorem BuildState.Mirrors.attachMount (mirrors : cleaned.Mirrors state)
    (places : standIn.unrestricted = place.unrestricted) (inherited : spared.unrestricted = above.unrestricted)
    {location : String} (elsewhere : location ≠ defaultsLocation) (own : MountSettings) :
    ∃ next answer nextCleaned answerCleaned,
      state.attachMount sites place above location own = (next, answer) ∧
      cleaned.attachMount sites standIn spared location own.withoutIgnored = (nextCleaned, answerCleaned) ∧
      nextCleaned.Mirrors next ∧ answerCleaned.map Mount.unrestricted = answer.map Mount.unrestricted := by
  have properties := own.unrestricted_below inherited
  have content := MountProperties.contentPaths_of_unrestricted sites properties
  cases derived : (own.propertiesBelow above).contentPaths sites with
  | error fault =>
    have error := Fault.severity_of_cutsOff (MountProperties.contentPaths_fault derived)
    have heeded := areHeeded_of_severity error (by decide)
    refine ⟨_, _, _, _, BuildState.attachMount_of_refused state derived,
      BuildState.attachMount_of_refused cleaned (content.trans derived), ?_, rfl⟩
    exact mirrors.reportOwn own.toNodeSettings elsewhere heeded
  | ok found =>
    obtain ⟨paths, warnings⟩ := found
    have heeded := MountProperties.areHeeded_contentPaths derived
    have parents : standIn.parent.map (·.id) = place.parent.map (·.id) := by
      have same := congrArg (fun place : MountPlace => place.parent.map (·.id)) places
      simp only [MountPlace.unrestricted, Option.map_map] at same
      exact same
    have detached : (standIn.detachedMount own.withoutIgnored (own.withoutIgnored.propertiesBelow spared)
        paths).unrestricted = (place.detachedMount own (own.propertiesBelow above) paths).unrestricted := by
      rw [MountPlace.unrestricted_detachedMount, MountPlace.unrestricted_detachedMount, places, properties]
      rfl
    have linked : (cleaned.tree.addMount (standIn.parent.map (·.id)) (standIn.detachedMount own.withoutIgnored
          (own.withoutIgnored.propertiesBelow spared) paths)).map
          (Prod.map HostingTree.unrestricted Mount.unrestricted) =
        (state.tree.addMount (place.parent.map (·.id))
          (place.detachedMount own (own.propertiesBelow above) paths)).map
          (Prod.map HostingTree.unrestricted Mount.unrestricted) := by
      rw [← HostingTree.addMount_unrestricted, ← HostingTree.addMount_unrestricted, mirrors.tree, parents,
        detached]
    rcases exists_of_map_eq_map linked with ⟨fault, refusedCleaned, refused⟩ |
      ⟨⟨grownCleaned, mountCleaned⟩, ⟨grown, mount⟩, addedCleaned, added, same⟩
    · refine ⟨_, _, _, _, BuildState.attachMount_of_taken state derived refused,
        BuildState.attachMount_of_taken cleaned (content.trans derived) refusedCleaned, ?_, rfl⟩
      have taken := areHeeded_of_severity (HostingTree.severity_addMount refused) (by decide)
      rw [List.append_assoc, List.append_assoc]
      exact mirrors.reportOwn own.toNodeSettings elsewhere (heeded.append taken)
    · obtain ⟨sameTree, sameMount⟩ := Prod.mk.inj same
      refine ⟨_, _, _, _, BuildState.attachMount_of_added state derived added,
        BuildState.attachMount_of_added cleaned (content.trans derived) addedCleaned, ?_,
        congrArg some sameMount⟩
      have indexed : cleaned.index.add grownCleaned mountCleaned = state.index.add grown mount := by
        rw [← MountIndex.add_unrestricted, sameTree, sameMount, MountIndex.add_unrestricted, mirrors.index]
      have linkedMirrors : BuildState.Mirrors
          { cleaned with tree := grownCleaned, index := (state.index.add grown mount).1 }
          { state with tree := grown, index := (state.index.add grown mount).1 } :=
        ⟨sameTree, rfl, mirrors.issues⟩
      rw [indexed, List.append_assoc, List.append_assoc]
      exact linkedMirrors.reportOwn own.toNodeSettings elsewhere (heeded.append (MountIndex.areHeeded_add mount))

mutual

theorem BuildState.Mirrors.buildMount {cleaned state : BuildState} {place standIn : MountPlace}
    {above spared : MountProperties} (mirrors : cleaned.Mirrors state)
    (places : standIn.unrestricted = place.unrestricted) (inherited : spared.unrestricted = above.unrestricted)
    (location : String) : (node : MountNode) →
    ∃ next answer nextCleaned answerCleaned,
      state.buildMount sites place above location node = (next, answer) ∧
      cleaned.buildMount sites standIn spared location node.withoutIgnored = (nextCleaned, answerCleaned) ∧
      nextCleaned.Mirrors next ∧ answerCleaned.map Mount.unrestricted = answer.map Mount.unrestricted
  | .node own mounts => by
    obtain ⟨next, answer, nextCleaned, answerCleaned, attached, attachedCleaned, mirrorsNext, same⟩ :=
      mirrors.attachMount sites places inherited (slashed_ne_defaultsLocation location own.name) own
    have name : own.withoutIgnored.name = own.name := rfl
    unfold BuildState.buildMount MountNode.withoutIgnored
    dsimp only
    rw [name, attached, attachedCleaned]
    cases answer with
    | none =>
      have none_left := Option.map_eq_none_iff.mp same
      subst none_left
      exact ⟨_, _, _, _, rfl, rfl, mirrorsNext, rfl⟩
    | some mount =>
      obtain ⟨mountCleaned, rfl, sameMount⟩ := Option.map_eq_some_iff.mp same
      have below : MountPlace.unrestricted { standIn with parent := some mountCleaned } =
          MountPlace.unrestricted { place with parent := some mount } := by
        have hosts := congrArg MountPlace.host places
        have ports := congrArg MountPlace.port places
        simp only [MountPlace.unrestricted, Option.map_some, sameMount, MountPlace.mk.injEq, and_true] at *
        exact ⟨hosts, ports⟩
      exact ⟨_, _, _, _, rfl, rfl, mirrorsNext.buildMounts below (congrArg Mount.properties sameMount) _ mounts,
        same⟩

theorem BuildState.Mirrors.buildMounts {cleaned state : BuildState} {place standIn : MountPlace}
    {above spared : MountProperties} (mirrors : cleaned.Mirrors state)
    (places : standIn.unrestricted = place.unrestricted) (inherited : spared.unrestricted = above.unrestricted)
    (location : String) : (nodes : List MountNode) →
    (cleaned.buildMounts sites standIn spared location (MountNode.withoutIgnoredInAll nodes)).Mirrors
      (state.buildMounts sites place above location nodes)
  | [] => by
    unfold BuildState.buildMounts MountNode.withoutIgnoredInAll
    exact mirrors
  | node :: rest => by
    obtain ⟨next, _, nextCleaned, _, built, builtCleaned, mirrorsNext, _⟩ :=
      mirrors.buildMount places inherited location node
    unfold BuildState.buildMounts MountNode.withoutIgnoredInAll
    dsimp only
    rw [built, builtCleaned]
    exact mirrorsNext.buildMounts places inherited location rest

end

end Mounts

section Ports

variable (sites : List SiteNode) {cleaned state : BuildState} {host spared : VirtualHost}

theorem BuildState.Mirrors.bindPort (mirrors : cleaned.Mirrors state)
    (same : spared.unrestricted = host.unrestricted) (location : String) (entry : PortMount) :
    (cleaned.bindPort spared location entry).Mirrors (state.bindPort host location entry) := by
  have id : spared.id = host.id := (congrArg VirtualHost.id same :)
  have bound : (cleaned.tree.addPortMount host.id entry).map HostingTree.unrestricted =
      (state.tree.addPortMount host.id entry).map HostingTree.unrestricted := by
    rw [← HostingTree.addPortMount_unrestricted, ← HostingTree.addPortMount_unrestricted, mirrors.tree]
  rw [BuildState.bindPort, BuildState.bindPort, id]
  rcases exists_of_map_eq_map bound with ⟨fault, refusedCleaned, refused⟩ |
    ⟨grownCleaned, grown, addedCleaned, added, sameTree⟩
  · rw [refusedCleaned, refused]
    exact mirrors.report location (areHeeded_of_severity (HostingTree.severity_addPortMount refused) (by decide))
  · rw [addedCleaned, added]
    exact mirrors.withTree sameTree

theorem BuildState.Mirrors.buildPort (mirrors : cleaned.Mirrors state)
    (same : spared.unrestricted = host.unrestricted) (location : String) (node : PortNode) :
    (cleaned.buildPort sites spared location node.withoutIgnored).Mirrors
      (state.buildPort sites host location node) := by
  have id : spared.id = host.id := (congrArg VirtualHost.id same :)
  have hostName : spared.hostName = host.hostName := (congrArg VirtualHost.hostName same :)
  have port : node.withoutIgnored.port = node.port := rfl
  have bound : cleaned.tree.hasPortMount spared.id node.withoutIgnored.port =
      state.tree.hasPortMount host.id node.port := by
    rw [port, id, ← HostingTree.hasPortMount_unrestricted, mirrors.tree, HostingTree.hasPortMount_unrestricted]
  by_cases taken : state.tree.hasPortMount host.id node.port
  · rw [BuildState.buildPort_of_bound cleaned (bound.trans taken), BuildState.buildPort_of_bound state taken,
      hostName]
    exact mirrors.report _ (areHeeded_singleton rfl)
  have free : ¬ cleaned.tree.hasPortMount spared.id node.withoutIgnored.port := by rwa [bound]
  cases isRoot : node.root with
  | none =>
    have rootless : node.withoutIgnored.root = none := by rw [PortNode.withoutIgnored, isRoot]; rfl
    rw [BuildState.buildPort_of_rootless cleaned free rootless,
      BuildState.buildPort_of_rootless state taken isRoot, hostName]
    exact (mirrors.report _ (areHeeded_singleton rfl)).bindPort same _ _
  | some root =>
    have isRootCleaned : node.withoutIgnored.root = some root.withoutIgnored := by
      rw [PortNode.withoutIgnored, isRoot]
      rfl
    have places : MountPlace.unrestricted { host := spared, port := node.port } =
        MountPlace.unrestricted { host, port := node.port } := by
      simp only [MountPlace.unrestricted, same]
    have inherited := MountProperties.unrestricted_ofHost (congrArg VirtualHost.properties same)
    obtain ⟨next, answer, nextCleaned, answerCleaned, built, builtCleaned, mirrorsNext, sameAnswer⟩ :=
      mirrors.buildMount sites places inherited s!"{location}:{node.port}" root
    cases answer with
    | none =>
      have none_left := Option.map_eq_none_iff.mp sameAnswer
      subst none_left
      rw [BuildState.buildPort_of_skipped cleaned free isRootCleaned builtCleaned,
        BuildState.buildPort_of_skipped state taken isRoot built]
      exact mirrorsNext
    | some mount =>
      obtain ⟨mountCleaned, rfl, sameMount⟩ := Option.map_eq_some_iff.mp sameAnswer
      have mountId : mountCleaned.id = mount.id := (congrArg Mount.id sameMount :)
      rw [BuildState.buildPort_of_built cleaned free isRootCleaned builtCleaned,
        BuildState.buildPort_of_built state taken isRoot built, mountId]
      exact mirrorsNext.bindPort same _ _

theorem BuildState.Mirrors.buildPorts (mirrors : cleaned.Mirrors state)
    (same : spared.unrestricted = host.unrestricted) (location : String) (nodes : List PortNode) :
    ((nodes.map PortNode.withoutIgnored).foldl (BuildState.buildPort sites spared location) cleaned).Mirrors
      (nodes.foldl (BuildState.buildPort sites host location) state) := by
  induction nodes generalizing cleaned state with
  | nil => exact mirrors
  | cons node rest ih => exact ih (mirrors.buildPort sites same location node)

end Ports

section Hosts

variable (sites : List SiteNode) (group : GroupPlace) {tree : HostingTree} {cleaned state : BuildState}

theorem HostingTree.addHostChain_unrestricted (properties : NodeProperties)
    (parent : Option VirtualHost) (labels : List String) :
    tree.unrestricted.addHostChain group properties.unrestricted (parent.map VirtualHost.unrestricted) labels =
      (tree.addHostChain group properties parent labels).map
        (Prod.map HostingTree.unrestricted (Option.map VirtualHost.unrestricted)) := by
  induction labels generalizing tree parent with
  | nil => rfl
  | cons label rest ih =>
    have ids : (parent.map VirtualHost.unrestricted).map (·.id) = parent.map (·.id) := by
      rw [Option.map_map]
      rfl
    have detached : VirtualHost.detached label (parent.map VirtualHost.unrestricted) group.name
        group.cmsLocation properties.unrestricted =
        (VirtualHost.detached label parent group.name group.cmsLocation properties).unrestricted := by
      cases parent <;> rfl
    rw [HostingTree.addHostChain, HostingTree.addHostChain]
    rw [ids, detached, HostingTree.addHost_unrestricted]
    cases tree.addHost group.position (parent.map (·.id))
        (.detached label parent group.name group.cmsLocation properties) with
    | error fault => rfl
    | ok grown => exact ih (some grown.2)

theorem hostLocation_of_unrestricted (group name : String) {standIn parent : Option VirtualHost}
    (parents : standIn.map VirtualHost.unrestricted = parent.map VirtualHost.unrestricted) :
    hostLocation group name standIn = hostLocation group name parent := by
  have forgets (parent : Option VirtualHost) : hostLocation group name parent =
      hostLocation group name (parent.map VirtualHost.unrestricted) := by
    cases parent <;> rfl
  rw [forgets standIn, parents, ← forgets parent]

section AttachHost

variable {sites group} (state : BuildState) {parent : Option VirtualHost} {above : NodeProperties} {own : HostSettings}
  {ports : List PortNode} {labels : List String} {fault : Fault}

theorem BuildState.attachHost_of_dotted (refused : nodeLabels own.name = .error fault) :
    state.attachHost sites group parent above own ports =
      .ok (state.report (hostLocation group.name own.name parent) [fault], none) := by
  simp only [BuildState.attachHost, refused]

theorem BuildState.attachHost_of_taken (labelled : nodeLabels own.name = .ok labels)
    (taken : state.tree.addHostChain group (own.propertiesBelow above) parent labels = .error fault) :
    state.attachHost sites group parent above own ports =
      .error ((state.report (hostLocation group.name own.name parent) own.faults).report
        (hostLocation group.name own.name parent) [fault]).issues := by
  simp only [BuildState.attachHost, labelled]
  simp only [BuildState.report, taken]

theorem BuildState.attachHost_of_hostless {tree : HostingTree} (labelled : nodeLabels own.name = .ok labels)
    (chain : state.tree.addHostChain group (own.propertiesBelow above) parent labels = .ok (tree, none)) :
    state.attachHost sites group parent above own ports =
      .ok ({ state.report (hostLocation group.name own.name parent) own.faults with tree }, none) := by
  simp only [BuildState.attachHost, labelled]
  simp only [BuildState.report, chain]

end AttachHost

theorem BuildState.Mirrors.attachHost {standIn parent : Option VirtualHost} {above spared : NodeProperties}
    (mirrors : cleaned.Mirrors state)
    (parents : standIn.map VirtualHost.unrestricted = parent.map VirtualHost.unrestricted)
    (inherited : spared.unrestricted = above.unrestricted) (own : HostSettings) (ports : List PortNode) :
    (∃ issues, state.attachHost sites group parent above own ports = .error issues ∧
      cleaned.attachHost sites group standIn spared own.withoutIgnored (ports.map PortNode.withoutIgnored) =
        .error (issues.filter (!·.isIgnoredValue))) ∨
    ∃ next answer nextCleaned answerCleaned,
      state.attachHost sites group parent above own ports = .ok (next, answer) ∧
      cleaned.attachHost sites group standIn spared own.withoutIgnored (ports.map PortNode.withoutIgnored) =
        .ok (nextCleaned, answerCleaned) ∧
      nextCleaned.Mirrors next ∧
      answerCleaned.map VirtualHost.unrestricted = answer.map VirtualHost.unrestricted := by
  have location := hostLocation_of_unrestricted group.name own.name parents
  have elsewhere := hostLocation_ne_defaultsLocation group.name own.name parent
  have name : own.withoutIgnored.name = own.name := rfl
  cases labelled : nodeLabels own.name with
  | error fault =>
    have error := Fault.severity_of_cutsOff (nodeLabels_fault labelled)
    have dotted := areHeeded_of_severity error (by decide)
    refine Or.inr ⟨_, none, _, none, BuildState.attachHost_of_dotted state labelled,
      BuildState.attachHost_of_dotted cleaned labelled, ?_, rfl⟩
    rw [name, location]
    exact mirrors.report _ dotted
  | ok labels =>
    have properties := own.unrestricted_below inherited
    have chains : (cleaned.tree.addHostChain group (own.withoutIgnored.propertiesBelow spared) standIn
          labels).map (Prod.map HostingTree.unrestricted (Option.map VirtualHost.unrestricted)) =
        (state.tree.addHostChain group (own.propertiesBelow above) parent labels).map
          (Prod.map HostingTree.unrestricted (Option.map VirtualHost.unrestricted)) := by
      rw [← HostingTree.addHostChain_unrestricted, ← HostingTree.addHostChain_unrestricted, mirrors.tree,
        properties, parents]
    have noted : (cleaned.report (hostLocation group.name own.name parent) own.withoutIgnored.faults).Mirrors
        (state.report (hostLocation group.name own.name parent) own.faults) := by
      have reported := mirrors.reportOwn own.toNodeSettings elsewhere areHeeded_nil
      rwa [List.append_nil, List.append_nil] at reported
    rcases exists_of_map_eq_map chains with ⟨fault, refusedCleaned, refused⟩ |
      ⟨⟨grownCleaned, lastCleaned⟩, ⟨grown, last⟩, addedCleaned, added, same⟩
    · have fatal : AreHeeded [fault] :=
        areHeeded_of_severity (HostingTree.severity_addHostChain refused) (by decide)
      have ended := (noted.report (hostLocation group.name own.name parent) fatal).issues
      refine Or.inl ⟨_, BuildState.attachHost_of_taken state labelled refused, ?_⟩
      rw [← ended, ← location]
      exact BuildState.attachHost_of_taken cleaned labelled refusedCleaned
    · obtain ⟨sameTree, sameLast⟩ := Prod.mk.inj same
      refine Or.inr ?_
      cases last with
      | none =>
        have none_left := Option.map_eq_none_iff.mp sameLast
        subst none_left
        refine ⟨_, none, _, none, BuildState.attachHost_of_hostless state labelled added,
          BuildState.attachHost_of_hostless cleaned labelled addedCleaned, ?_, rfl⟩
        rw [name, location]
        exact noted.withTree sameTree
      | some host =>
        obtain ⟨hostCleaned, rfl, sameHost⟩ := Option.map_eq_some_iff.mp sameLast
        have hostName : hostCleaned.hostName = host.hostName := (congrArg VirtualHost.hostName sameHost :)
        refine ⟨_, _, _, _, BuildState.attachHost_of_chain state labelled added,
          BuildState.attachHost_of_chain cleaned labelled addedCleaned, ?_, sameLast⟩
        rw [hostName, name, location]
        exact (noted.withTree sameTree).buildPorts sites sameHost _ ports

mutual

theorem BuildState.Mirrors.buildHost {cleaned state : BuildState} {standIn parent : Option VirtualHost}
    {above spared : NodeProperties} (mirrors : cleaned.Mirrors state)
    (parents : standIn.map VirtualHost.unrestricted = parent.map VirtualHost.unrestricted)
    (inherited : spared.unrestricted = above.unrestricted) : (node : HostNode) →
    MirroredResult (cleaned.buildHost sites group standIn spared node.withoutIgnored)
      (state.buildHost sites group parent above node)
  | .node own root ports hosts => by
    have attached := mirrors.attachHost sites group parents inherited own
      (HostNode.portNodes (.node own root ports hosts))
    unfold BuildState.buildHost HostNode.withoutIgnored
    dsimp only
    rw [HostNode.portNodes_withoutIgnored]
    rcases attached with ⟨issues, ended, endedCleaned⟩ |
      ⟨next, answer, nextCleaned, answerCleaned, linked, linkedCleaned, mirrorsNext, same⟩
    · rw [ended, endedCleaned]
      exact .ends rfl
    · rw [linked, linkedCleaned]
      cases answer with
      | none =>
        have none_left := Option.map_eq_none_iff.mp same
        subst none_left
        exact .goesOn mirrorsNext
      | some host =>
        obtain ⟨hostCleaned, rfl, sameHost⟩ := Option.map_eq_some_iff.mp same
        exact mirrorsNext.buildHosts same (congrArg VirtualHost.properties sameHost) hosts

theorem BuildState.Mirrors.buildHosts {cleaned state : BuildState} {standIn parent : Option VirtualHost}
    {above spared : NodeProperties} (mirrors : cleaned.Mirrors state)
    (parents : standIn.map VirtualHost.unrestricted = parent.map VirtualHost.unrestricted)
    (inherited : spared.unrestricted = above.unrestricted) : (nodes : List HostNode) →
    MirroredResult (cleaned.buildHosts sites group standIn spared (HostNode.withoutIgnoredInAll nodes))
      (state.buildHosts sites group parent above nodes)
  | [] => by
    unfold BuildState.buildHosts HostNode.withoutIgnoredInAll
    exact .goesOn mirrors
  | node :: rest => by
    have first := mirrors.buildHost parents inherited node
    unfold BuildState.buildHosts HostNode.withoutIgnoredInAll
    dsimp only
    generalize cleaned.buildHost sites group standIn spared node.withoutIgnored = resultCleaned at first ⊢
    generalize state.buildHost sites group parent above node = result at first ⊢
    cases first with
    | ends same => exact .ends same
    | goesOn mirrorsNext => exact mirrorsNext.buildHosts parents inherited rest

end

section BuildGroup

variable {sites} (state : BuildState) {above : NodeProperties} {node : GroupNode}

theorem BuildState.buildGroup_of_taken {fault : Fault}
    (taken : state.tree.addGroup node.name node.usableCmsLocation = .error fault) :
    state.buildGroup sites above node =
      .error ((state.report node.name node.faults).report node.name [fault]).issues := by
  simp only [BuildState.buildGroup]
  simp only [BuildState.report, taken]

theorem BuildState.buildGroup_of_added {tree : HostingTree}
    (added : state.tree.addGroup node.name node.usableCmsLocation = .ok tree) :
    state.buildGroup sites above node =
      BuildState.buildHosts sites ⟨state.tree.groups.size, node.name, node.usableCmsLocation⟩ none above
        { state.report node.name node.faults with tree } node.hosts := by
  simp only [BuildState.buildGroup]
  simp only [BuildState.report, added]

end BuildGroup

theorem BuildState.Mirrors.buildGroup (mirrors : cleaned.Mirrors state) (above : NodeProperties)
    (node : GroupNode) :
    MirroredResult (cleaned.buildGroup sites above node.withoutIgnored) (state.buildGroup sites above node) := by
  have noted := mirrors.report node.name node.areHeeded_faults
  have groups : (cleaned.tree.addGroup node.name node.usableCmsLocation).map HostingTree.unrestricted =
      (state.tree.addGroup node.name node.usableCmsLocation).map HostingTree.unrestricted := by
    rw [← HostingTree.addGroup_unrestricted, ← HostingTree.addGroup_unrestricted, mirrors.tree]
  have position : cleaned.tree.groups.size = state.tree.groups.size :=
    congrArg Array.size (congrArg HostingTree.groups mirrors.tree :)
  rcases exists_of_map_eq_map groups with ⟨fault, refusedCleaned, refused⟩ |
    ⟨grownCleaned, grown, addedCleaned, added, sameTree⟩
  · have fatal : AreHeeded [fault] := areHeeded_of_severity (HostingTree.severity_addGroup refused) (by decide)
    have endedCleaned : cleaned.buildGroup sites above node.withoutIgnored =
        .error ((cleaned.report node.name node.faults).report node.name [fault]).issues :=
      BuildState.buildGroup_of_taken cleaned refusedCleaned
    rw [BuildState.buildGroup_of_taken state refused, endedCleaned]
    exact .ends (noted.report node.name fatal).issues
  · have builtCleaned : cleaned.buildGroup sites above node.withoutIgnored =
        BuildState.buildHosts sites ⟨cleaned.tree.groups.size, node.name, node.usableCmsLocation⟩ none above
          { cleaned.report node.name node.faults with tree := grownCleaned }
          (HostNode.withoutIgnoredInAll node.hosts) :=
      BuildState.buildGroup_of_added cleaned addedCleaned
    rw [BuildState.buildGroup_of_added state added, builtCleaned, position]
    exact (noted.withTree sameTree).buildHosts sites _ rfl rfl node.hosts

theorem BuildState.Mirrors.buildGroups (mirrors : cleaned.Mirrors state) (above : NodeProperties)
    (nodes : List GroupNode) :
    MirroredResult (cleaned.buildGroups sites above (nodes.map GroupNode.withoutIgnored))
      (state.buildGroups sites above nodes) := by
  induction nodes generalizing cleaned state with
  | nil => exact .goesOn mirrors
  | cons node rest ih =>
    have first := mirrors.buildGroup sites above node
    rw [List.map_cons, BuildState.buildGroups, BuildState.buildGroups]
    generalize cleaned.buildGroup sites above node.withoutIgnored = resultCleaned at first ⊢
    generalize state.buildGroup sites above node = result at first ⊢
    cases first with
    | ends same => exact .ends same
    | goesOn mirrorsNext => exact ih mirrorsNext

end Hosts

/-- The builds of a configuration without and with the values in vain: both
go on or both end, and where they go on, the one mirrors the other. -/
theorem Configuration.assemble_withoutIgnored (config : Configuration) :
    MirroredResult config.withoutIgnored.assemble config.assemble := by
  have start : BuildState.Mirrors (BuildState.report {} defaultsLocation config.hosts.faults)
      (BuildState.report {} defaultsLocation config.hosts.faults) := by
    refine ⟨rfl, rfl, ?_⟩
    rw [eq_comm, List.filter_eq_self]
    intro issue member
    obtain ⟨fault, _, rfl⟩ := List.mem_map.mp member
    simp [Issue.isIgnoredValue]
  exact start.buildGroups config.sites config.hosts.properties config.hostGroups

end SiteRouting
