import Mathlib
import SiteRouting.Proofs.Text.PathText
import SiteRouting.Proofs.Tree.Paths

namespace SiteRouting

/-- The mount that names of children lead to, one behind the other. -/
def HostingTree.mountAt? (tree : HostingTree) (root : Mount) (names : List String) : Option Mount :=
  names.foldlM tree.childMount? root

/-- The deepest mount on a way down: the names at the front lead to it, and
the next one leads to none of its children. -/
def HostingTree.IsDeepest (tree : HostingTree) (root : Mount) (names : List String) (deepest : Mount) :
    Prop :=
  ∃ taken left, names = taken ++ left ∧ tree.mountAt? root taken = some deepest ∧
    ∀ name more, left = name :: more → tree.childMount? deepest name = none

/-- The climb from a mount by way of the parents: all mounts on it, the
lowest one first. It ends, at a mount without a parent. -/
inductive HostingTree.Climb (tree : HostingTree) : Mount → List Mount → Prop where
  | top {mount : Mount} (top : mount.parent = none) : tree.Climb mount [mount]
  | up {mount above : Mount} {id : MountId} {line : List Mount} (parent : mount.parent = some id)
      (held : tree.mount? id = some above) (climb : tree.Climb above line) :
      tree.Climb mount (mount :: line)

section Down

variable {tree : HostingTree} {root mount other : Mount} {names : List String} {name : String}

theorem HostingTree.mountAt?_cons (tree : HostingTree) (root : Mount) (name : String) (names : List String) :
    tree.mountAt? root (name :: names) = (tree.childMount? root name).bind (tree.mountAt? · names) :=
  rfl

theorem HostingTree.mountAt?_append (tree : HostingTree) (root : Mount) (names more : List String) :
    tree.mountAt? root (names ++ more) = (tree.mountAt? root names).bind (tree.mountAt? · more) :=
  List.foldlM_append

theorem HostingTree.mountAt?_concat (tree : HostingTree) (root : Mount) (names : List String) (name : String) :
    tree.mountAt? root (names ++ [name]) = (tree.mountAt? root names).bind (tree.childMount? · name) := by
  rw [HostingTree.mountAt?_append]
  refine Option.bind_congr fun last _ => ?_
  rw [HostingTree.mountAt?_cons]
  exact Option.bind_fun_some _

/-- The way down stops at one mount only: with fewer names taken it
could go on. -/
theorem HostingTree.IsDeepest.unique (deepest : tree.IsDeepest root names mount)
    (deepestToo : tree.IsDeepest root names other) : other = mount := by
  have same {taken left more rest : List String} {a b : Mount} (isFront : taken <+: more)
      (whole : taken ++ left = more ++ rest) (leadsA : tree.mountAt? root taken = some a)
      (leadsB : tree.mountAt? root more = some b)
      (stops : ∀ name behind, left = name :: behind → tree.childMount? a name = none) : b = a := by
    obtain ⟨further, rfl⟩ := isFront
    rw [List.append_assoc, List.append_cancel_left_eq] at whole
    rw [HostingTree.mountAt?_append, leadsA, Option.bind_some] at leadsB
    cases further with
    | nil => exact (Option.some.inj leadsB).symm
    | cons name behind =>
      rw [HostingTree.mountAt?_cons, stops name (behind ++ rest) whole] at leadsB
      cases leadsB
  obtain ⟨taken, left, split, leads, stops⟩ := deepest
  obtain ⟨takenToo, leftToo, splitToo, leadsToo, stopsToo⟩ := deepestToo
  have whole := split.symm.trans splitToo
  have isFront : taken <+: names := split ▸ List.prefix_append taken left
  have isFrontToo : takenToo <+: names := splitToo ▸ List.prefix_append takenToo leftToo
  rcases List.prefix_or_prefix_of_prefix isFront isFrontToo with shorter | longer
  · exact same shorter whole leads leadsToo stops
  · exact (same longer whole.symm leadsToo leads stopsToo).symm

theorem HostingTree.WellFormed.mount?_id (wellFormed : tree.WellFormed) (member : mount ∈ tree.mounts) :
    tree.mount? mount.id = some mount := by
  obtain ⟨id, held⟩ := Array.mem_iff_getElem?.mp member
  rw [(wellFormed.mounts id mount held).position]
  exact held

/-- The child of a mount with a name is the mount of that name that
has it as its parent. -/
theorem HostingTree.WellFormed.childMount?_eq_some_iff (wellFormed : tree.WellFormed)
    (member : mount ∈ tree.mounts) : tree.childMount? mount name = some other ↔
      other ∈ tree.mounts ∧ other.parent = some mount.id ∧ other.name = name := by
  have children := wellFormed.mountChildren mount.id mount (wellFormed.mount?_id member)
  rw [HostingTree.childMount?, Option.bind_eq_some_iff]
  constructor
  · rintro ⟨id, linked, isChild⟩
    obtain ⟨node, inTree, below, isName⟩ := (children.lookup_iff name id).mp linked
    cases isChild.symm.trans inTree
    exact ⟨Array.mem_of_getElem? inTree, below, isName⟩
  · rintro ⟨inMounts, below, isName⟩
    have inTree := wellFormed.mount?_id inMounts
    exact ⟨other.id, (children.lookup_iff name other.id).mpr ⟨other, inTree, below, isName⟩, inTree⟩

/-- The mount above another one is in the tree, at the same host, group and
port, and the path of the lower one continues its path. -/
theorem HostingTree.WellFormed.exists_above (wellFormed : tree.WellFormed) (member : mount ∈ tree.mounts)
    {id : MountId} (below : mount.parent = some id) :
    ∃ above ∈ tree.mounts, tree.mount? id = some above ∧ above.id = id ∧
      mount.mountPath = s!"{above.mountPath}/{mount.name}" ∧
      mount.host = above.host ∧ mount.group = above.group ∧ mount.port = above.port := by
  have shaped := wellFormed.mounts mount.id mount (wellFormed.mount?_id member)
  obtain ⟨_, above, inTree, place⟩ := shaped.below id below
  exact ⟨above, Array.mem_of_getElem? inTree, inTree, (wellFormed.mounts id above inTree).position, place⟩

theorem HostingTree.WellFormed.exists_mountAt? (wellFormed : tree.WellFormed) (member : root ∈ tree.mounts)
    {id : MountId} (leads : tree.LeadsTo root.id id) (held : tree.mount? id = some mount) :
    ∃ names, tree.mountAt? root names = some mount := by
  induction leads generalizing mount with
  | root =>
    cases (wellFormed.mount?_id member).symm.trans held
    exact ⟨[], rfl⟩
  | @child above id node key leads inTree linked ih =>
    obtain ⟨names, reaches⟩ := ih inTree
    refine ⟨names ++ [key], ?_⟩
    rw [HostingTree.mountAt?_concat, reaches, Option.bind_some, HostingTree.childMount?, linked]
    exact held

/-- The path of a mount is that of the root mount and then the names
on the way. -/
theorem HostingTree.WellFormed.mountPath_of_mountAt? (wellFormed : tree.WellFormed)
    (member : root ∈ tree.mounts) (leads : tree.mountAt? root names = some mount) :
    mount.mountPath = root.mountPath ++ pathText names := by
  induction names generalizing root with
  | nil =>
    cases leads
    exact String.append_empty.symm
  | cons name rest ih =>
    rw [HostingTree.mountAt?_cons, Option.bind_eq_some_iff] at leads
    obtain ⟨child, found, further⟩ := leads
    obtain ⟨inMounts, below, isName⟩ := (wellFormed.childMount?_eq_some_iff member).mp found
    obtain ⟨above, _, inTree, _, isPath, _⟩ := wellFormed.exists_above inMounts below
    cases (wellFormed.mount?_id member).symm.trans inTree
    have longer : child.mountPath.toList = root.mountPath.toList ++ '/' :: name.toList := by
      rw [isPath, isName, toList_slashed]
    rw [ih inMounts further, ← String.toList_inj, String.toList_append, String.toList_append, longer,
      toList_pathText, toList_pathText, List.flatMap_cons]
    exact List.append_assoc _ _ _

end Down

section Up

variable {tree : HostingTree} {mount : Mount} {line trail : List Mount}

theorem HostingTree.Climb.unique (climb : tree.Climb mount line) {other : List Mount}
    (climbToo : tree.Climb mount other) : other = line := by
  induction climb generalizing other with
  | top top =>
    cases climbToo with
    | top => rfl
    | up parent => cases top.symm.trans parent
  | up parent held _ ih =>
    cases climbToo with
    | top top => cases top.symm.trans parent
    | up parentToo heldToo climbToo =>
      cases parent.symm.trans parentToo
      cases held.symm.trans heldToo
      rw [ih climbToo]

theorem HostingTree.Climb.exists_eq_cons (climb : tree.Climb mount line) : ∃ above, line = mount :: above := by
  cases climb with
  | top => exact ⟨[], rfl⟩
  | up => exact ⟨_, rfl⟩

theorem HostingTree.Climb.place (climb : tree.Climb mount line) (wellFormed : tree.WellFormed)
    (member : mount ∈ tree.mounts) : ∀ other ∈ line, other ∈ tree.mounts ∧ other.host = mount.host ∧
      other.group = mount.group ∧ other.port = mount.port := by
  induction climb with
  | top top =>
    intro other inLine
    rw [List.mem_singleton.mp inLine]
    exact ⟨member, rfl, rfl, rfl⟩
  | up parent held climb ih =>
    intro other inLine
    obtain ⟨above, inMounts, inTree, _, _, host, group, port⟩ := wellFormed.exists_above member parent
    cases held.symm.trans inTree
    rcases List.mem_cons.mp inLine with rfl | later
    · exact ⟨member, rfl, rfl, rfl⟩
    · rw [host, group, port]
      exact ih inMounts other later

theorem HostingTree.suffix_mountTrail (tree : HostingTree) (trail : List Mount) (mount : Mount)
    (names : List String) : mount :: trail <:+ tree.mountTrail trail mount names := by
  induction names generalizing trail mount with
  | nil => exact List.suffix_rfl
  | cons name rest ih =>
    rw [HostingTree.mountTrail]
    split
    · exact List.suffix_rfl
    · rename_i child _
      exact (List.suffix_cons child (mount :: trail)).trans (ih (mount :: trail) child)

/-- Every mount on the trail of a way down is reached by names at the front. -/
theorem HostingTree.mem_mountTrail {names : List String} {other : Mount}
    (member : other ∈ tree.mountTrail trail mount names) :
    other ∈ trail ∨ ∃ taken, taken <+: names ∧ tree.mountAt? mount taken = some other := by
  induction names generalizing trail mount with
  | nil =>
    rcases List.mem_cons.mp member with rfl | earlier
    · exact Or.inr ⟨[], List.prefix_rfl, rfl⟩
    · exact Or.inl earlier
  | cons name rest ih =>
    rw [HostingTree.mountTrail] at member
    have here : other ∈ mount :: trail →
        other ∈ trail ∨ ∃ taken, taken <+: name :: rest ∧ tree.mountAt? mount taken = some other := by
      intro onTrail
      rcases List.mem_cons.mp onTrail with rfl | earlier
      · exact Or.inr ⟨[], List.nil_prefix, rfl⟩
      · exact Or.inl earlier
    split at member
    · exact here member
    · rename_i child found
      rcases ih member with onTrail | ⟨taken, isFront, leads⟩
      · exact here onTrail
      · refine Or.inr ⟨name :: taken, List.cons_prefix_cons.mpr ⟨rfl, isFront⟩, ?_⟩
        rw [HostingTree.mountAt?_cons, found]
        exact leads

/-- The way down follows the names of children as long as they lead on, and
its trail is the climb from its deepest mount: every child on it names the
mount before as its parent. -/
theorem HostingTree.Climb.mountTrail (climb : tree.Climb mount (mount :: trail))
    (wellFormed : tree.WellFormed) (member : mount ∈ tree.mounts) (names : List String) :
    ∃ deepest ∈ tree.mounts, tree.IsDeepest mount names deepest ∧
      tree.Climb deepest (tree.mountTrail trail mount names) := by
  induction names generalizing mount trail with
  | nil => exact ⟨mount, member, ⟨[], [], rfl, rfl, nofun⟩, climb⟩
  | cons name rest ih =>
    rw [HostingTree.mountTrail]
    cases found : tree.childMount? mount name with
    | none =>
      refine ⟨mount, member, ⟨[], name :: rest, rfl, rfl, ?_⟩, climb⟩
      rintro _ _ ⟨⟩
      exact found
    | some child =>
      obtain ⟨inMounts, below, _⟩ := (wellFormed.childMount?_eq_some_iff member).mp found
      obtain ⟨deepest, inTree, ⟨taken, left, split, leads, stops⟩, climbs⟩ :=
        ih (.up below (wellFormed.mount?_id member) climb) inMounts
      refine ⟨deepest, inTree, ⟨name :: taken, left, by rw [split, List.cons_append], ?_, stops⟩, climbs⟩
      rw [HostingTree.mountAt?_cons, found]
      exact leads

end Up

end SiteRouting
