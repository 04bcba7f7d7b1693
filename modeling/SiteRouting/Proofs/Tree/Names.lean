import Mathlib
import SiteRouting.Proofs.Text.Separators
import SiteRouting.Proofs.Tree.Links

namespace SiteRouting

/-- The full name of a host for a label below a host name or, without
one, on top of a group. -/
def hostNameBelow (above : Option String) (label : String) : String :=
  match above with
  | none => Text.lowercase label
  | some above => s!"{Text.lowercase label}.{above}"

def hostNamesBelow (above : Option String) : List String → List String
  | [] => []
  | label :: rest => hostNameBelow above label :: hostNamesBelow (some (hostNameBelow above label)) rest

def lastHostName (above : Option String) (labels : List String) : Option String :=
  labels.foldl (fun above label => some (hostNameBelow above label)) above

/-- What a node is known by: its group and, for a host, its full name. -/
structure NodeName where
  group : String
  hostName : Option String := none
  deriving DecidableEq, Repr

def VirtualHost.fullName (host : VirtualHost) : NodeName :=
  ⟨host.group, some host.hostName⟩

def HostingTree.names (tree : HostingTree) : List NodeName :=
  tree.groups.toList.map (⟨·.name, none⟩) ++ tree.hosts.toList.map VirtualHost.fullName

section Text

theorem Text.not_mem_segments {sep : Char} {cs segment : List Char} (member : segment ∈ segments sep cs) :
    sep ∉ segment := by
  induction cs generalizing segment with
  | nil => simp_all [segments]
  | cons c rest ih =>
    unfold segments at member
    split at member
    · rcases List.mem_cons.mp member with rfl | later
      · exact List.not_mem_nil
      · exact ih later
    rename_i differs
    have other : sep ≠ c := fun same => differs (beq_iff_eq.mpr same.symm)
    split at member
    · rw [List.mem_singleton.mp member, List.mem_singleton]
      exact other
    · rename_i first others shape
      rw [shape] at ih
      rcases List.mem_cons.mp member with rfl | later
      · exact List.not_mem_cons_of_ne_of_not_mem other (ih List.mem_cons_self)
      · exact ih (List.mem_cons_of_mem _ later)

/-- The labels that a node adds have no dots, whatever the node is called. -/
theorem nodeLabels_undotted {name label : String} {labels : List String}
    (labelled : nodeLabels name = .ok labels) (member : label ∈ labels) : '.' ∉ label.toList := by
  unfold nodeLabels addressSegments at labelled
  split at labelled
  · rename_i plain
    cases labelled
    rw [List.mem_singleton.mp member]
    simpa [Text.hasChar] using plain
  · split at labelled
    · cases labelled
      obtain ⟨segment, found, rfl⟩ := List.mem_map.mp (List.mem_reverse.mp member)
      rw [String.toList_ofList]
      exact Text.not_mem_segments found
    · cases labelled

theorem lowercase_undotted {label : String} (undotted : '.' ∉ label.toList) :
    '.' ∉ (Text.lowercase label).toList :=
  fun member => undotted (Text.mem_of_mem_lowercase member (by decide))

theorem toList_dotted (first rest : String) :
    (s!"{first}.{rest}").toList = first.toList ++ '.' :: rest.toList := by
  simp [toString]

theorem dotted_inj {first other rest others : String} (undotted : '.' ∉ first.toList)
    (undottedToo : '.' ∉ other.toList) (same : s!"{first}.{rest}" = s!"{other}.{others}") :
    first = other ∧ rest = others := by
  have texts := congrArg String.toList same
  rw [toList_dotted, toList_dotted] at texts
  have cut := Text.cutFirst?_append rest.toList undotted
  rw [texts, Text.cutFirst?_append others.toList undottedToo, Option.some.injEq, Prod.mk.injEq] at cut
  exact ⟨(String.toList_inj.mp cut.1).symm, (String.toList_inj.mp cut.2).symm⟩

theorem ne_dotted {first other rest : String} (undotted : '.' ∉ first.toList) :
    first ≠ s!"{other}.{rest}" := by
  rintro rfl
  rw [toList_dotted] at undotted
  exact undotted (by simp)

end Text

/-- A tree in which names lead to nodes: its links fit, and no label has
a dot. A host is then known by its group and its full name, which tells
the way down from the group. -/
structure HostingTree.Named (tree : HostingTree) : Prop where
  shaped : tree.unlinked.Shaped
  linked : tree.Linked
  undotted : ∀ (id : Nat) (host : VirtualHost), tree.unlinked.hosts[id]? = some host →
    '.' ∉ host.name.toList

section Unique

variable {tree : HostingTree}

theorem HostingTree.names_unlinked (tree : HostingTree) : tree.unlinked.names = tree.names := by
  have groups : (fun group : HostGroup => NodeName.mk group.name none) ∘ HostGroup.unlinked =
      fun group => ⟨group.name, none⟩ := rfl
  have hosts : VirtualHost.fullName ∘ VirtualHost.unlinked = VirtualHost.fullName := rfl
  simp only [HostingTree.names, HostingTree.unlinked, Array.toList_map, List.map_map, groups, hosts]

/-- A host without a parent is found among the roots of its group, one below
a host among the children of that one; its own label leads to it. -/
theorem HostingTree.Named.position_unique (named : tree.Named) {i j : Nat} {a b : VirtualHost}
    (atI : tree.unlinked.hosts[i]? = some a) (atJ : tree.unlinked.hosts[j]? = some b)
    (same : a.fullName = b.fullName) : i = j := by
  rw [VirtualHost.fullName, VirtualHost.fullName, NodeName.mk.injEq, Option.some.injEq] at same
  obtain ⟨sameGroup, sameName⟩ := same
  have shapeA := named.shaped.hosts i a atI
  have shapeB := named.shaped.hosts j b atJ
  have undottedA := named.undotted i a atI
  have undottedB := named.undotted j b atJ
  induction i using Nat.strongRecOn generalizing j a b with
  | ind i ih =>
    cases parentA : a.parent with
    | none =>
      rw [shapeA.top parentA] at sameName
      cases parentB : b.parent with
      | none =>
        rw [shapeB.top parentB] at sameName
        obtain ⟨position, bare, inGroups, isGroup⟩ := shapeA.grouped
        obtain ⟨group, inTree, rfl⟩ := HostingTree.exists_group inGroups
        have roots := named.linked.roots position group inTree
        have foundA := (roots.lookup_iff a.name i).mpr ⟨a, atI, ⟨parentA, isGroup.symm⟩, rfl⟩
        have foundB := (roots.lookup_iff a.name j).mpr
          ⟨b, atJ, ⟨parentB, sameGroup.symm.trans isGroup.symm⟩, sameName.symm⟩
        exact Option.some.inj (foundA.symm.trans foundB)
      | some below =>
        obtain ⟨_, above, _, isName, _⟩ := shapeB.below below parentB
        exact absurd (sameName.trans isName) (ne_dotted undottedA)
    | some p =>
      obtain ⟨beforeA, aboveA, atP, isNameA, isGroupA⟩ := shapeA.below p parentA
      cases parentB : b.parent with
      | none =>
        rw [shapeB.top parentB] at sameName
        exact absurd (sameName.symm.trans isNameA) (ne_dotted undottedB)
      | some q =>
        obtain ⟨_, aboveB, atQ, isNameB, isGroupB⟩ := shapeB.below q parentB
        obtain ⟨sameLabel, sameAbove⟩ :=
          dotted_inj undottedA undottedB (isNameA.symm.trans (sameName.trans isNameB))
        have sameParent : p = q := ih p beforeA atP atQ
          (isGroupA.symm.trans (sameGroup.trans isGroupB)) sameAbove (named.shaped.hosts p aboveA atP)
          (named.shaped.hosts q aboveB atQ) (named.undotted p aboveA atP) (named.undotted q aboveB atQ)
        subst sameParent
        obtain ⟨parent, inTree, _⟩ := HostingTree.exists_host atP
        have children := named.linked.hosts p parent inTree
        have foundA := (children.lookup_iff a.name i).mpr ⟨a, atI, parentA, rfl⟩
        have foundB := (children.lookup_iff a.name j).mpr ⟨b, atJ, parentB, sameLabel.symm⟩
        exact Option.some.inj (foundA.symm.trans foundB)

theorem nodup_of_positions {α β : Type} {nodes : Array α} {view : α → β}
    (unique : ∀ (i j : Nat) (a b : α), nodes[i]? = some a → nodes[j]? = some b → view a = view b →
      i = j) : (nodes.toList.map view).Nodup := by
  refine List.nodup_iff_getElem?_ne_getElem?.mpr ?_
  intro i j before inRange same
  rw [List.length_map] at inRange
  have inRangeToo : i < nodes.toList.length := before.trans inRange
  rw [List.getElem?_map, List.getElem?_map, List.getElem?_eq_getElem inRange,
    List.getElem?_eq_getElem inRangeToo, Option.map_some, Option.map_some, Option.some.injEq] at same
  have equal := unique i j nodes.toList[i] nodes.toList[j] (by simp) (by simp) same
  omega

theorem HostingTree.Named.nodup (named : tree.Named) : tree.names.Nodup := by
  rw [← tree.names_unlinked, HostingTree.names, List.nodup_append]
  refine ⟨?_, ?_, ?_⟩
  · refine nodup_of_positions fun i j a b atI atJ same => ?_
    exact named.shaped.names i j a b atI atJ (congrArg NodeName.group same)
  · exact nodup_of_positions fun i j a b atI atJ same => named.position_unique atI atJ same
  · intro one isGroup other isHost same
    obtain ⟨group, _, rfl⟩ := List.mem_map.mp isGroup
    obtain ⟨host, _, rfl⟩ := List.mem_map.mp isHost
    exact nomatch congrArg NodeName.hostName same

end Unique

section Growth

variable {tree after : HostingTree} {place : GroupPlace} {properties : NodeProperties}

theorem HostingTree.names_addGroup {name : String} {cmsLocation : Option String}
    (added : tree.addGroup name cmsLocation = .ok after) : after.names.Perm (tree.names ++ [⟨name, none⟩]) := by
  obtain ⟨_, rfl⟩ := HostingTree.addGroup_eq_ok.mp added
  simp only [HostingTree.names, Array.toList_push, List.map_append, List.append_assoc]
  exact List.perm_append_comm.append_left _

theorem HostingTree.mem_names_of_addGroup {name : String} {cmsLocation : Option String} {fault : Fault}
    (refused : tree.addGroup name cmsLocation = .error fault) : ⟨name, none⟩ ∈ tree.names := by
  unfold HostingTree.addGroup at refused
  split at refused
  · rename_i taken
    obtain ⟨group, found⟩ := Option.isSome_iff_exists.mp taken
    rw [HostingTree.group?] at found
    have member : group ∈ tree.groups.toList := Array.mem_toList_iff.mpr (Array.mem_of_find?_eq_some found)
    have isName := Array.find?_some found
    exact List.mem_append_left _ (List.mem_map.mpr ⟨group, member, by rw [beq_iff_eq.mp isName]⟩)
  · cases refused

theorem HostingTree.names_addHost {parent : Option VirtualHost} {label : String} {linked : VirtualHost}
    (added : tree.addHost place.position (parent.map (·.id))
      (.detached label parent place.name place.cmsLocation properties) = .ok (after, linked)) :
    after.names = tree.names ++ [⟨place.name, some (hostNameBelow (parent.map (·.hostName)) label)⟩] ∧
      linked.hostName = hostNameBelow (parent.map (·.hostName)) label := by
  obtain ⟨same, grown⟩ := HostingTree.unlinked_addHost added
  have isName : linked.hostName = hostNameBelow (parent.map (·.hostName)) label := by
    rw [same]
    cases parent <;> rfl
  have full : linked.unlinked.fullName = ⟨linked.group, some linked.hostName⟩ := rfl
  refine ⟨?_, isName⟩
  rw [← after.names_unlinked, ← tree.names_unlinked, grown]
  simp only [HostingTree.names, Array.toList_push, List.map_append, List.map_singleton,
    List.append_assoc, full, isName]
  rw [same]
  rfl

/-- A host is refused because its name is there: at the place where it should
go, its label leads to the one that has it. -/
theorem HostingTree.Named.mem_names_of_addHost (named : tree.Named) {parent : Option VirtualHost}
    {label : String} {fault : Fault} (held : tree.HoldsHostPlace place parent)
    (refused : tree.addHost place.position (parent.map (·.id))
      (.detached label parent place.name place.cmsLocation properties) = .error fault) :
    ⟨place.name, some (hostNameBelow (parent.map (·.hostName)) label)⟩ ∈ tree.names := by
  have member {id : Nat} {host : VirtualHost} (inTree : tree.unlinked.hosts[id]? = some host) :
      host.fullName ∈ tree.names := by
    rw [← tree.names_unlinked]
    refine List.mem_append_right _ (List.mem_map_of_mem ?_)
    exact Array.mem_toList_iff.mpr (Array.mem_of_getElem? inTree)
  cases parent with
  | none =>
    unfold HostingTree.addHost HostingTree.addRootHost at refused
    dsimp only [Option.map_none] at refused
    split at refused
    · rename_i taken
      obtain ⟨id, found⟩ := Option.isSome_iff_exists.mp taken
      obtain ⟨group, inGroups, leads⟩ := Option.bind_eq_some_iff.mp found
      obtain ⟨host, inTree, ⟨top, inGroup⟩, isLabel⟩ :=
        ((named.linked.roots _ group inGroups).lookup_iff _ id).mp leads
      have placed := HostingTree.unlinked_group inGroups
      rw [held.group] at placed
      have isGroup : place.name = group.name := congrArg HostGroup.name (Option.some.inj placed)
      have isName : host.hostName = Text.lowercase label := ((named.shaped.hosts id host inTree).top top).trans isLabel
      have inNames := member inTree
      rwa [VirtualHost.fullName, inGroup, isName, ← isGroup] at inNames
    · cases refused
  | some above =>
    unfold HostingTree.addHost HostingTree.addChildHost at refused
    dsimp only [Option.map_some] at refused
    split at refused
    · rename_i taken
      obtain ⟨id, found⟩ := Option.isSome_iff_exists.mp taken
      obtain ⟨node, inHosts, leads⟩ := Option.bind_eq_some_iff.mp found
      obtain ⟨host, inTree, below, isLabel⟩ :=
        ((named.linked.hosts above.id node inHosts).lookup_iff _ id).mp leads
      obtain ⟨_, parent, isParent, isName, inGroup⟩ := (named.shaped.hosts id host inTree).below above.id below
      obtain ⟨heldAbove, isGroup⟩ := held.parent above rfl
      cases heldAbove.symm.trans isParent
      have inNames := member inTree
      rwa [VirtualHost.fullName, isName, isLabel, inGroup, VirtualHost.unlinked, isGroup] at inNames
    · cases refused

theorem HostingTree.Named.addHost {parent : Option VirtualHost} {label : String} {linked : VirtualHost}
    (named : tree.Named) (held : tree.HoldsHostPlace place parent) (undotted : '.' ∉ label.toList)
    (added : tree.addHost place.position (parent.map (·.id))
      (.detached label parent place.name place.cmsLocation properties) = .ok (after, linked)) :
    after.Named where
  shaped := named.shaped.addHost held added
  linked := named.linked.addHost named.shaped held added
  undotted id host inTree := by
    obtain ⟨same, grown⟩ := HostingTree.unlinked_addHost added
    rw [grown] at inTree
    rcases getElem?_push_eq_some_iff.mp inTree with old | ⟨_, rfl⟩
    · exact named.undotted id host old
    · rw [same]
      exact lowercase_undotted undotted

end Growth

end SiteRouting
