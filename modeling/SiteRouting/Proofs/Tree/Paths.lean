import Mathlib
import SiteRouting.Proofs.Tree.WellFormed

namespace SiteRouting

section Text

theorem Text.cutLast_inj {sep : Char} {front other name label : List Char} (free : sep ∉ name)
    (freeToo : sep ∉ label) (same : front ++ sep :: name = other ++ sep :: label) :
    front = other ∧ name = label := by
  have reversed (a b : List Char) : (a ++ sep :: b).reverse = b.reverse ++ sep :: a.reverse := by simp
  have backward := congrArg List.reverse same
  rw [reversed, reversed] at backward
  have cut := cutFirst?_append front.reverse (List.mem_reverse.not.mpr free)
  rw [backward, cutFirst?_append other.reverse (List.mem_reverse.not.mpr freeToo), Option.some.injEq,
    Prod.mk.injEq, List.reverse_inj, List.reverse_inj] at cut
  exact ⟨cut.2.symm, cut.1.symm⟩

theorem toList_slashed (above name : String) :
    (s!"{above}/{name}").toList = above.toList ++ '/' :: name.toList := by
  simp [toString]

theorem slashed_inj {above other name label : String} (free : '/' ∉ name.toList)
    (freeToo : '/' ∉ label.toList) (same : s!"{above}/{name}" = s!"{other}/{label}") :
    above = other ∧ name = label := by
  have texts := congrArg String.toList same
  rw [toList_slashed, toList_slashed] at texts
  obtain ⟨front, back⟩ := Text.cutLast_inj free freeToo texts
  exact ⟨String.toList_inj.mp front, String.toList_inj.mp back⟩

theorem slashed_ne_empty (above name : String) : s!"{above}/{name}" ≠ "" := by
  intro empty
  have texts := congrArg String.toList empty
  rw [toList_slashed] at texts
  simp at texts

end Text

section Mounts

variable {tree : HostingTree}

theorem HostingTree.Shaped.mountPath_begins (shaped : tree.Shaped) {id : Nat} {mount : Mount}
    (held : tree.mounts[id]? = some mount) :
    mount.mountPath = "" ∨ ∃ rest, mount.mountPath.toList = '/' :: rest := by
  induction id using Nat.strongRecOn generalizing mount with
  | ind id ih =>
    have shape := shaped.mounts id mount held
    cases parent : mount.parent with
    | none => exact Or.inl (shape.top parent)
    | some above =>
      obtain ⟨before, node, inTree, isPath, _⟩ := shape.below above parent
      rw [isPath, toList_slashed]
      rcases ih above before inTree with top | ⟨rest, begins⟩
      · exact Or.inr ⟨mount.name.toList, by rw [top]; rfl⟩
      · exact Or.inr ⟨rest ++ '/' :: mount.name.toList, by rw [begins]; rfl⟩

/-- A mount without a parent is the root mount of its host and port. -/
theorem HostingTree.WellFormed.rootMount?_of_top (wellFormed : tree.WellFormed) {id : Nat} {mount : Mount}
    (held : tree.mounts[id]? = some mount) (top : mount.parent = none) :
    ∃ host, tree.hosts[mount.host]? = some host ∧ host.rootMount? mount.port = some id := by
  obtain ⟨host, root, inHosts, rooted, leads⟩ := (wellFormed.rooted id mount held _ _).mpr ⟨rfl, rfl⟩
  cases leads with
  | root => exact ⟨host, inHosts, rooted⟩
  | child earlier inTree linked =>
    obtain ⟨child, inMounts, below, _⟩ := ((wellFormed.mountChildren _ _ inTree).lookup_iff _ id).mp linked
    cases held.symm.trans inMounts
    cases top.symm.trans below

/-- Host, port and path tell a mount. Where no mount has a slash in its
name, the last slash of a path is the one in front of the mount's own name,
so the path tells the way up. -/
theorem HostingTree.WellFormed.mount_unique (wellFormed : tree.WellFormed)
    (unslashed : ∀ mount ∈ tree.mounts, '/' ∉ mount.name.toList) {i j : Nat} {a b : Mount}
    (atI : tree.mounts[i]? = some a) (atJ : tree.mounts[j]? = some b) (sameHost : a.host = b.host)
    (samePort : a.port = b.port) (samePath : a.mountPath = b.mountPath) : i = j := by
  induction i using Nat.strongRecOn generalizing j a b with
  | ind i ih =>
    have shapeA := wellFormed.mounts i a atI
    have shapeB := wellFormed.mounts j b atJ
    cases parentA : a.parent with
    | none =>
      cases parentB : b.parent with
      | none =>
        obtain ⟨host, inHosts, rootA⟩ := wellFormed.rootMount?_of_top atI parentA
        obtain ⟨same, inHostsToo, rootB⟩ := wellFormed.rootMount?_of_top atJ parentB
        rw [sameHost] at inHosts
        cases inHosts.symm.trans inHostsToo
        rw [samePort] at rootA
        exact Option.some.inj (rootA.symm.trans rootB)
      | some aboveB =>
        obtain ⟨_, _, _, pathB, _⟩ := shapeB.below aboveB parentB
        rw [shapeA.top parentA, pathB] at samePath
        exact absurd samePath.symm (slashed_ne_empty _ _)
    | some aboveA =>
      obtain ⟨before, nodeA, inTreeA, pathA, hostA, _, portA⟩ := shapeA.below aboveA parentA
      cases parentB : b.parent with
      | none =>
        rw [shapeB.top parentB, pathA] at samePath
        exact absurd samePath (slashed_ne_empty _ _)
      | some aboveB =>
        obtain ⟨_, nodeB, inTreeB, pathB, hostB, _, portB⟩ := shapeB.below aboveB parentB
        rw [pathA, pathB] at samePath
        obtain ⟨front, name⟩ := slashed_inj (unslashed a (Array.mem_of_getElem? atI))
          (unslashed b (Array.mem_of_getElem? atJ)) samePath
        have sameAbove : aboveA = aboveB := by
          refine ih aboveA before inTreeA inTreeB ?_ ?_ front
          · rw [← hostA, ← hostB, sameHost]
          · rw [← portA, ← portB, samePort]
        -- Two children of one mount with one name are one entry of its table.
        subst sameAbove
        have children := wellFormed.mountChildren aboveA nodeA inTreeA
        have linkA := (children.lookup_iff a.name i).mpr ⟨a, atI, parentA, rfl⟩
        have linkB := (children.lookup_iff a.name j).mpr ⟨b, atJ, parentB, name.symm⟩
        exact Option.some.inj (linkA.symm.trans linkB)

end Mounts

end SiteRouting
