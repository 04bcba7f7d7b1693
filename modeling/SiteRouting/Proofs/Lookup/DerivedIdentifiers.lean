import Mathlib
import SiteRouting.Proofs.Build.NodeNames
import SiteRouting.Proofs.Lookup.IdentifierConflicts
import SiteRouting.Proofs.Tree.Labels
import SiteRouting.Proofs.Tree.Paths

namespace SiteRouting

/-- The text that the identifier of a mount is derived from if it configures
none. It tells group, host, port and path. -/
def HostingTree.identifierName (tree : HostingTree) (mount : Mount) : String :=
  s!"{mount.group}/{tree.describeMount mount}"

section Text

def placeText (group hostName : String) (port : Port) (mountPath : String) : List Char :=
  group.toList ++ '/' :: (hostName.toList ++ ':' :: (toString port).toList ++ mountPath.toList)

def IsPathText (path : List Char) : Prop :=
  path = [] ∨ ∃ rest, path = '/' :: rest

theorem not_mem_digits {c : Char} (port : Port) (other : c.isDigit = false) : c ∉ (toString port).toList := by
  intro member
  rw [Nat.toString_eq_repr, Nat.toList_repr] at member
  have digit := Nat.isDigit_of_mem_toDigits (by decide) (by decide) member
  rw [other] at digit
  cases digit

theorem toString_port_inj {port other : Port} (same : toString port = toString other) : port = other := by
  have read := Text.numeral?_toString (le_max_left port other)
  rw [same, Text.numeral?_toString (le_max_right port other)] at read
  exact (Option.some.inj read).symm

theorem append_path_inj {front other path route : List Char} (free : '/' ∉ front) (freeToo : '/' ∉ other)
    (isPath : IsPathText path) (isRoute : IsPathText route) (same : front ++ path = other ++ route) :
    front = other ∧ path = route := by
  have taken {text way : List Char} (free : '/' ∉ text) (isPath : IsPathText way) :
      (text ++ way).takeWhile (· != '/') = text := by
    have all : ∀ c ∈ text, (c != '/') = true := by
      intro c member
      refine bne_iff_ne.mpr ?_
      rintro rfl
      exact free member
    rw [List.takeWhile_append_of_pos all]
    rcases isPath with rfl | ⟨rest, rfl⟩ <;> simp
  have fronts : front = other := by rw [← taken free isPath, same, taken freeToo isRoute]
  subst fronts
  exact ⟨rfl, List.append_cancel_left same⟩

theorem placeText_inj {group other hostName otherName mountPath route : String} {port otherPort : Port}
    (freeGroup : '/' ∉ group.toList) (freeOther : '/' ∉ other.toList) (freeName : '/' ∉ hostName.toList)
    (freeOtherName : '/' ∉ otherName.toList) (isPath : IsPathText mountPath.toList)
    (isRoute : IsPathText route.toList)
    (same : placeText group hostName port mountPath = placeText other otherName otherPort route) :
    group = other ∧ hostName = otherName ∧ port = otherPort ∧ mountPath = route := by
  -- The group ends at the first slash, the path begins at the next one, and the port is what stands
  -- behind the last colon in between: a host name may have colons, a port has none.
  have cut := congrArg (Text.cutFirst? '/') same
  rw [placeText, placeText, Text.cutFirst?_append _ freeGroup, Text.cutFirst?_append _ freeOther,
    Option.some.injEq, Prod.mk.injEq] at cut
  obtain ⟨groups, places⟩ := cut
  have free {name : String} {port : Port} (free : '/' ∉ name.toList) :
      '/' ∉ name.toList ++ ':' :: (toString port).toList := by
    rw [List.mem_append, List.mem_cons]
    exact fun inside => inside.elim free fun behind => behind.elim (by decide) (not_mem_digits port rfl)
  obtain ⟨addresses, paths⟩ := append_path_inj (free freeName) (free freeOtherName) isPath isRoute places
  obtain ⟨names, ports⟩ :=
    Text.cutLast_inj (not_mem_digits port rfl) (not_mem_digits otherPort rfl) addresses
  exact ⟨String.toList_inj.mp groups, String.toList_inj.mp names,
    toString_port_inj (String.toList_inj.mp ports), String.toList_inj.mp paths⟩

end Text

section Tree

variable {tree : HostingTree} {a b mount : Mount} {host : VirtualHost}

theorem HostingTree.identifierName_of_host (hosted : tree.hosts[mount.host]? = some host) :
    tree.identifierName mount = s!"{mount.group}/{host.hostName}:{mount.port}{mount.mountPath}" := by
  have found : tree.host? mount.host = some host := hosted
  simp [HostingTree.identifierName, HostingTree.describeMount, found, toString, String.append_assoc]

theorem HostingTree.toList_identifierName (hosted : tree.hosts[mount.host]? = some host) :
    (tree.identifierName mount).toList = placeText mount.group host.hostName mount.port mount.mountPath := by
  rw [HostingTree.identifierName_of_host hosted, placeText]
  simp [toString]

/-- Where no name has a slash, as in the tree of a valid configuration, the
text that an identifier is derived from tells its mount. -/
theorem HostingTree.identifierName_inj (wellFormed : tree.WellFormed) (named : tree.Named)
    (hosts : ∀ host ∈ tree.hosts, '/' ∉ host.group.toList ∧ '/' ∉ host.hostName.toList)
    (mounts : ∀ mount ∈ tree.mounts, '/' ∉ mount.name.toList) (inTree : a ∈ tree.mounts)
    (inTreeToo : b ∈ tree.mounts) (same : tree.identifierName a = tree.identifierName b) : a = b := by
  obtain ⟨i, atI⟩ := Array.mem_iff_getElem?.mp inTree
  obtain ⟨j, atJ⟩ := Array.mem_iff_getElem?.mp inTreeToo
  obtain ⟨host, hosted, group⟩ := (wellFormed.mounts i a atI).hosted
  obtain ⟨other, hostedToo, groupToo⟩ := (wellFormed.mounts j b atJ).hosted
  obtain ⟨freeGroup, freeName⟩ := hosts host (Array.mem_of_getElem? hosted)
  obtain ⟨freeOther, freeOtherName⟩ := hosts other (Array.mem_of_getElem? hostedToo)
  have isPath {id : Nat} {mount : Mount} (held : tree.mounts[id]? = some mount) :
      IsPathText mount.mountPath.toList :=
    (wellFormed.mountPath_begins held).imp_left fun empty => by rw [empty]; rfl
  have texts := congrArg String.toList same
  rw [toList_identifierName hosted, toList_identifierName hostedToo, group, groupToo] at texts
  obtain ⟨sameGroup, sameName, samePort, samePath⟩ :=
    placeText_inj freeGroup freeOther freeName freeOtherName (isPath atI) (isPath atJ) texts
  have sameHost : a.host = b.host := by
    refine named.position_unique (unlinked_host hosted) (unlinked_host hostedToo) ?_
    simp only [VirtualHost.fullName, VirtualHost.unlinked, sameGroup, sameName]
  have position : i = j := wellFormed.mount_unique mounts atI atJ sameHost samePort samePath
  rw [position] at atI
  exact Option.some.inj (atI.symm.trans atJ)

/-- The mounts of a tree have the same derived identifier only if it is
derived from the same text. -/
def HostingTree.UuidsApart (tree : HostingTree) : Prop :=
  ∀ a ∈ tree.mounts, ∀ b ∈ tree.mounts,
    Digest.uuidOfName (tree.identifierName a) = Digest.uuidOfName (tree.identifierName b) →
      tree.identifierName a = tree.identifierName b

instance (tree : HostingTree) : Decidable tree.UuidsApart :=
  inferInstanceAs (Decidable (∀ a ∈ tree.mounts, ∀ b ∈ tree.mounts, _ → _))

end Tree

def MountLineage.configured? (lineage : MountLineage) : Option String :=
  lineage.nodes.head?.bind (·.identifier)

section Declared

variable {config : Configuration}

theorem HostNode.mem_preorder_self (above : HostLineage) (node : HostNode) :
    (above, node) ∈ node.preorder above := by
  cases node
  exact List.mem_cons_self

theorem HostNode.preorderOfAll_eq (above : HostLineage) (nodes : List HostNode) :
    HostNode.preorderOfAll above nodes = nodes.flatMap (HostNode.preorder above) := by
  induction nodes with
  | nil => rfl
  | cons first rest ih => rw [HostNode.preorderOfAll, ih, List.flatMap_cons]

theorem MountNode.lineagesOfAll_eq (above : MountLineage) (nodes : List MountNode) :
    MountNode.lineagesOfAll above nodes = nodes.flatMap (MountNode.lineages above) := by
  induction nodes with
  | nil => rfl
  | cons first rest ih => rw [MountNode.lineagesOfAll, ih, List.flatMap_cons]

theorem Configuration.DeclaresHost.preorder_subset {group : String} {node : HostNode}
    (declared : config.DeclaresHost group node) :
    ∃ above, node.preorder above ⊆ config.hostGroups.flatMap GroupNode.preorder := by
  induction declared with
  | @top group node member here =>
    refine ⟨{ group := group.name }, fun entry inside => ?_⟩
    refine List.mem_flatMap.mpr ⟨group, member, ?_⟩
    rw [GroupNode.preorder, HostNode.preorderOfAll_eq]
    exact List.mem_flatMap.mpr ⟨node, here, inside⟩
  | @nested _ node child declared here ih =>
    obtain ⟨above, listed⟩ := ih
    obtain ⟨own, root, ports, hosts⟩ := node
    refine ⟨above.below own, fun entry inside => listed ?_⟩
    rw [HostNode.preorder, HostNode.preorderOfAll_eq]
    exact List.mem_cons_of_mem _ (List.mem_flatMap.mpr ⟨child, here, inside⟩)

theorem Configuration.DeclaresMount.lineages_subset {node : MountNode}
    (declared : config.DeclaresMount node) : ∃ above, node.lineages above ⊆ config.mountLineages := by
  induction declared with
  | @root group host port node declared entry here =>
    obtain ⟨above, listed⟩ := declared.preorder_subset
    refine ⟨{ host := above.below host.settings, port := port.port }, fun lineage inside => ?_⟩
    refine List.mem_flatMap.mpr ⟨(above, host), listed (HostNode.mem_preorder_self above host), ?_⟩
    refine List.mem_flatMap.mpr ⟨port, entry, ?_⟩
    rw [PortNode.lineages, here]
    exact inside
  | @nested node child declared here ih =>
    obtain ⟨above, listed⟩ := ih
    obtain ⟨own, mounts⟩ := node
    refine ⟨above.below own, fun lineage inside => listed ?_⟩
    rw [MountNode.lineages, MountNode.lineagesOfAll_eq]
    exact List.mem_cons_of_mem _ (List.mem_flatMap.mpr ⟨child, here, inside⟩)

theorem Configuration.DeclaresMount.exists_lineage {node : MountNode}
    (declared : config.DeclaresMount node) :
    ∃ lineage ∈ config.mountLineages, lineage.configured? = node.settings.identifier := by
  obtain ⟨above, listed⟩ := declared.lineages_subset
  obtain ⟨own, mounts⟩ := node
  exact ⟨above.below own, listed List.mem_cons_self, rfl⟩

end Declared

section Registry

variable {config : Configuration} {policy : BuildPolicy} {generation : Nat} {registry : Registry}

/-- The identifier of a mount is the one that it configures, or else the
one derived from its place. -/
theorem Configuration.build_identifier (built : config.build policy generation = .ok registry) {mount : Mount}
    (member : mount ∈ registry.tree.mounts) :
    ∃ lineage, config.prune.kept.mountLineages[mount.id]? = some lineage ∧
      lineage.Describes config mount ∧
      mount.identifier =
        lineage.configured?.getD (Digest.uuidOfName (registry.tree.identifierName mount)) := by
  have shown := Configuration.build_shows built
  obtain ⟨wellFormed, _⟩ := Configuration.build_named built
  obtain ⟨id, held⟩ := Array.mem_iff_getElem?.mp member
  obtain ⟨lineage, _, _, position, listed, described, above, _⟩ := shown.mount id mount held
  obtain ⟨host, hosted, _⟩ := (wellFormed.mounts id mount held).hosted
  obtain ⟨hostLineage, _, _, listedHost, describedHost, _⟩ := shown.host mount.host host hosted
  cases above.symm.trans listedHost
  obtain ⟨own, isFirst, _, identified, _⟩ := described.settings
  refine ⟨lineage, position ▸ listed, described, ?_⟩
  rw [identified, MountLineage.configured?, isFirst, Option.bind_some, MountLineage.derivedIdentifier,
    HostingTree.identifierName_of_host hosted, described.group, describedHost.hostName, described.port,
    described.mountPath]

/-- Mounts that have different identifiers are not reported, and each
is found by its own. -/
theorem Configuration.build_of_distinct (built : config.build policy generation = .ok registry)
    (distinct : ∀ a ∈ registry.tree.mounts, ∀ b ∈ registry.tree.mounts, a.identifier = b.identifier → a = b) :
    (∀ issue ∈ registry.issues, issue.fault.isDuplicateIdentifier = false) ∧
      ∀ mount ∈ registry.tree.mounts, registry.mountByIdentifier mount.identifier = some mount := by
  obtain ⟨wellFormed, _⟩ := Configuration.build_named built
  refine ⟨?_, ?_⟩
  · have nodup : registry.tree.identifierTexts.Nodup := by
      refine nodup_of_positions fun i j a b atI atJ same => ?_
      have equal := distinct a (Array.mem_of_getElem? atI) b (Array.mem_of_getElem? atJ) same
      rw [← (wellFormed.mounts i a atI).position, ← (wellFormed.mounts j b atJ).position, equal]
    have reported := Configuration.build_duplicates built
    rw [repeatedTexts_eq_nil nodup fun _ _ => List.not_mem_nil, List.map_nil] at reported
    intro issue member
    exact Bool.eq_false_iff.mpr (List.filter_eq_nil_iff.mp reported issue.fault (List.mem_map_of_mem member))
  · intro mount member
    rw [Configuration.mountByIdentifier_eq built]
    cases found : registry.tree.mounts.toList.reverse.find? (·.identifier == mount.identifier) with
    | none =>
      have listed := List.mem_reverse.mpr (Array.mem_toList_iff.mpr member)
      exact absurd BEq.rfl (List.find?_eq_none.mp found mount listed)
    | some other =>
      have inTree := Array.mem_toList_iff.mp (List.mem_reverse.mp (List.mem_of_find?_eq_some found))
      have same := List.find?_some found
      rw [distinct other inTree mount member (beq_iff_eq.mp same)]

/-- In a valid configuration no two mounts have the same text to derive an
identifier from. So, unless two of these texts have the same UUID, mounts
that configure no identifier have different ones; and if no mount configures
one, none is reported for its identifier and each mount is found by it. -/
theorem Configuration.build_derives_identifiers (valid : config.isValid)
    (built : config.build policy generation = .ok registry) :
    (∀ a ∈ registry.tree.mounts, ∀ b ∈ registry.tree.mounts,
      registry.tree.identifierName a = registry.tree.identifierName b → a = b) ∧
    (∀ mount ∈ registry.tree.mounts, ∃ lineage,
      config.prune.kept.mountLineages[mount.id]? = some lineage ∧ lineage.Describes config mount ∧
      mount.identifier =
        lineage.configured?.getD (Digest.uuidOfName (registry.tree.identifierName mount))) ∧
    (registry.tree.UuidsApart →
      (∀ a ∈ registry.tree.mounts, ∀ b ∈ registry.tree.mounts,
        (config.prune.kept.mountLineages[a.id]?).bind (·.configured?) = none →
        (config.prune.kept.mountLineages[b.id]?).bind (·.configured?) = none →
        a.identifier = b.identifier → a = b) ∧
      ((∀ lineage ∈ config.mountLineages, lineage.configured? = none) →
        (∀ issue ∈ registry.issues, issue.fault.isDuplicateIdentifier = false) ∧
        ∀ mount ∈ registry.tree.mounts, registry.mountByIdentifier mount.identifier = some mount)) := by
  obtain ⟨wellFormed, named⟩ := Configuration.build_named built
  obtain ⟨hosts, mounts⟩ := Configuration.build_no_slash valid built
  have names : ∀ a ∈ registry.tree.mounts, ∀ b ∈ registry.tree.mounts,
      registry.tree.identifierName a = registry.tree.identifierName b → a = b := fun a inTree b inTreeToo =>
    HostingTree.identifierName_inj wellFormed named hosts mounts inTree inTreeToo
  refine ⟨names, fun mount member => Configuration.build_identifier built member, fun apart => ⟨?_, ?_⟩⟩
  · have derived {mount : Mount} (member : mount ∈ registry.tree.mounts)
        (bare : (config.prune.kept.mountLineages[mount.id]?).bind (·.configured?) = none) :
        mount.identifier = Digest.uuidOfName (registry.tree.identifierName mount) := by
      obtain ⟨lineage, listed, _, identified⟩ := Configuration.build_identifier built member
      rw [listed, Option.bind_some] at bare
      rw [identified, bare, Option.getD_none]
    intro a inTree b inTreeToo bare bareToo same
    rw [derived inTree bare, derived inTreeToo bareToo] at same
    exact names a inTree b inTreeToo (apart a inTree b inTreeToo same)
  · intro bare
    have derived {mount : Mount} (member : mount ∈ registry.tree.mounts) :
        mount.identifier = Digest.uuidOfName (registry.tree.identifierName mount) := by
      obtain ⟨node, host, declared, _, hosted, identified⟩ := Configuration.build_namesMount built member
      obtain ⟨linked, inTree, rfl⟩ := HostingTree.exists_host hosted
      obtain ⟨lineage, listed, configured⟩ := declared.exists_lineage
      rw [identified, ← configured, bare lineage listed, HostingTree.identifierName_of_host inTree]
      rfl
    refine Configuration.build_of_distinct built fun a inTree b inTreeToo same => ?_
    rw [derived inTree, derived inTreeToo] at same
    exact names a inTree b inTreeToo (apart a inTree b inTreeToo same)

end Registry

/-- Mounts that configure no identifier: two of a host and its port, and one of a
host whose name has a colon, so that one of the texts begins with another one. -/
def unidentifiedSite : Configuration where
  hostGroups := [{
    name := "prod"
    hosts := [
      .node { name := "com" } none [⟨80, some (.node {} [.node { name := "news" } []])⟩] [],
      .node { name := "com:80" } (some (.node {} [])) [] []] }]

theorem unidentifiedSite_identifiers :
    unidentifiedSite.isValid ∧ ∃ registry, unidentifiedSite.build .lenient 1 = .ok registry ∧
      registry.tree.mounts.toList.map registry.tree.identifierName =
        ["prod/com:80", "prod/com:80/news", "prod/com:80:0"] ∧
      (∀ a ∈ registry.tree.mounts, ∀ b ∈ registry.tree.mounts,
        registry.tree.identifierName a = registry.tree.identifierName b → a = b) ∧
      (∀ issue ∈ registry.issues, issue.fault.isDuplicateIdentifier = false) ∧
      ∀ mount ∈ registry.tree.mounts, registry.mountByIdentifier mount.identifier = some mount := by
  have shown : (unidentifiedSite.build .lenient 1).toOption.map (fun registry =>
      (registry.tree.mounts.toList.map registry.tree.identifierName, decide registry.tree.UuidsApart)) =
      some (["prod/com:80", "prod/com:80/news", "prod/com:80:0"], true) := by decide +kernel
  have valid : unidentifiedSite.isValid := by decide +kernel
  have bare : ∀ lineage ∈ unidentifiedSite.mountLineages, lineage.configured? = none := by decide +kernel
  obtain ⟨registry, built, viewed⟩ := Configuration.build_of_view shown
  obtain ⟨texts, apart⟩ := Prod.mk.inj viewed
  obtain ⟨names, _, derived⟩ := Configuration.build_derives_identifiers valid built
  obtain ⟨_, found⟩ := derived (of_decide_eq_true apart)
  exact ⟨valid, registry, built, texts, names, found bare⟩

end SiteRouting
