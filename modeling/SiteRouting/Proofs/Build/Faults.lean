import Mathlib
import SiteRouting.Proofs.Build.Pruning

namespace SiteRouting

/-- Whether a fault costs the build a subtree. Errors do, except that a port
entry which has no root mount at all is reported as one and kept all the same. -/
def Fault.cutsOff : Fault → Bool
  | .missingRootMount _ _ => false
  | fault => fault.severity == .error

def Fault.isConflict : Fault → Bool
  | .aliasConflict _ _ _ _ | .duplicateIdentifier _ => true
  | _ => false

/-- Faults that cost no subtree and that no index finds: notes on everything
but what is left out and the conflicts of mounts. -/
def AreNotes (faults : List Fault) : Prop :=
  ∀ fault ∈ faults, fault.cutsOff = false ∧ fault.isConflict = false

-- Which kinds of faults a node can have is said once here; what holds of those kinds holds of its faults.
section Kinds

variable {holds : Fault → Prop}

theorem ContextPathSetting.forall_faults (malformed : ∀ value, holds (.malformedContextPath value))
    (setting : ContextPathSetting) : ∀ fault ∈ setting.faults, holds fault := by
  cases setting with
  | malformed value => exact List.forall_mem_singleton.mpr (malformed value)
  | inherited => exact List.forall_mem_nil _
  | lifted => exact List.forall_mem_nil _
  | restricted path => exact List.forall_mem_nil _

theorem forall_responseCodeFaults (unsupported : ∀ code, holds (.unsupportedResponseCode code))
    (code : Option Nat) : ∀ fault ∈ responseCodeFaults code, holds fault := by
  unfold responseCodeFaults
  split
  · exact List.forall_mem_nil _
  split
  · exact List.forall_mem_nil _
  · exact List.forall_mem_singleton.mpr (unsupported _)

theorem NodeSettings.forall_faults (malformed : ∀ value, holds (.malformedContextPath value))
    (unsupported : ∀ code, holds (.unsupportedResponseCode code)) (own : NodeSettings) :
    ∀ fault ∈ own.faults, holds fault :=
  List.forall_mem_append.mpr
    ⟨ContextPathSetting.forall_faults malformed _, forall_responseCodeFaults unsupported _⟩

theorem Defaults.forall_faults (malformed : ∀ value, holds (.malformedContextPath value))
    (unsupported : ∀ code, holds (.unsupportedResponseCode code)) (defaults : Defaults) :
    ∀ fault ∈ defaults.faults, holds fault :=
  List.forall_mem_append.mpr
    ⟨forall_responseCodeFaults unsupported _, ContextPathSetting.forall_faults malformed _⟩

theorem GroupNode.forall_faults (invalid : ∀ location, holds (.invalidCmsLocation location))
    (group : GroupNode) : ∀ fault ∈ group.faults, holds fault := by
  unfold GroupNode.faults
  split
  · exact List.forall_mem_nil _
  split
  · exact List.forall_mem_nil _
  · exact List.forall_mem_singleton.mpr (invalid _)

theorem MountProperties.forall_warnings {properties : MountProperties} {sites : List SiteNode}
    {content : ContentPaths} {warnings : List Fault}
    (derived : properties.contentPaths sites = .ok (content, warnings))
    (missing : ∀ site, holds (.missingPreviewSite site)) : ∀ fault ∈ warnings, holds fault := by
  unfold MountProperties.contentPaths at derived
  split at derived
  · cases derived
    exact List.forall_mem_nil _
  split at derived
  · cases derived
  split at derived
  · cases derived
    exact List.forall_mem_nil _
  unfold mappedPaths at derived
  split at derived
  · cases derived
  split at derived
  · cases derived
    exact List.forall_mem_nil _
  split at derived
  · cases derived
    exact List.forall_mem_nil _
  · cases derived
    exact List.forall_mem_singleton.mpr (missing _)

end Kinds

section Notes

theorem areNotes_nil : AreNotes [] :=
  List.forall_mem_nil _

theorem AreNotes.append {a b : List Fault} (left : AreNotes a) (right : AreNotes b) :
    AreNotes (a ++ b) :=
  List.forall_mem_append.mpr ⟨left, right⟩

theorem areNotes_singleton (fault : Fault) (harmless : fault.cutsOff = false)
    (noConflict : fault.isConflict = false) : AreNotes [fault] :=
  List.forall_mem_singleton.mpr ⟨harmless, noConflict⟩

theorem NodeSettings.areNotes_faults (own : NodeSettings) : AreNotes own.faults :=
  own.forall_faults (fun _ => ⟨rfl, rfl⟩) fun _ => ⟨rfl, rfl⟩

theorem Defaults.areNotes_faults (defaults : Defaults) : AreNotes defaults.faults :=
  defaults.forall_faults (fun _ => ⟨rfl, rfl⟩) fun _ => ⟨rfl, rfl⟩

theorem GroupNode.areNotes_faults (group : GroupNode) : AreNotes group.faults :=
  group.forall_faults fun _ => ⟨rfl, rfl⟩

theorem MountProperties.contentPaths_fault {properties : MountProperties} {sites : List SiteNode}
    {fault : Fault} (refused : properties.contentPaths sites = .error fault) : fault.cutsOff = true := by
  unfold MountProperties.contentPaths at refused
  split at refused
  · cases refused
  split at refused
  · cases refused
    rfl
  split at refused
  · cases refused
  unfold mappedPaths at refused
  split at refused
  · cases refused
    rfl
  split at refused
  · cases refused
  split at refused <;> cases refused

theorem MountProperties.contentPaths_warnings {properties : MountProperties} {sites : List SiteNode}
    {content : ContentPaths} {warnings : List Fault}
    (derived : properties.contentPaths sites = .ok (content, warnings)) : AreNotes warnings :=
  MountProperties.forall_warnings derived fun _ => ⟨rfl, rfl⟩

theorem nodeLabels_fault {name : String} {fault : Fault} (refused : nodeLabels name = .error fault) :
    fault.cutsOff = true := by
  unfold nodeLabels addressSegments at refused
  split at refused
  · cases refused
  · split at refused
    · cases refused
    · cases refused
      rfl

theorem MountLineage.obstacle?_cutsOff {above : MountLineage} {config : Configuration}
    {own : MountSettings} {siblings : List String} {fault : Fault}
    (blocked : above.obstacle? config own siblings = some fault) : fault.cutsOff = true := by
  unfold MountLineage.obstacle? at blocked
  split at blocked
  · rename_i refused
    cases blocked
    exact MountProperties.contentPaths_fault refused
  · split at blocked
    · cases blocked
      rfl
    · cases blocked

end Notes

section Conflicts

variable {index : MountIndex} {tree : HostingTree}

theorem MountIndex.addAlias_conflicts (id : MountId) (key : AliasKey) :
    ∀ fault ∈ (index.addAlias tree id key).2, fault.isConflict = true := by
  unfold MountIndex.addAlias
  split
  · exact fun _ impossible => absurd impossible List.not_mem_nil
  · intro fault member
    rw [List.mem_singleton.mp member]
    rfl

theorem MountIndex.addAliases_conflicts (id : MountId) (keys : List AliasKey) :
    ∀ fault ∈ (index.addAliases tree id keys).2, fault.isConflict = true := by
  induction keys generalizing index with
  | nil => exact fun _ impossible => absurd impossible List.not_mem_nil
  | cons key rest ih =>
    intro fault member
    rcases List.mem_append.mp member with here | later
    · exact MountIndex.addAlias_conflicts id key fault here
    · exact ih fault later

theorem MountIndex.addIdentifier_conflicts (identifier : String) (id : MountId) :
    ∀ fault ∈ (index.addIdentifier identifier id).2, fault.isConflict = true := by
  unfold MountIndex.addIdentifier
  intro fault member
  split at member
  · rw [List.mem_singleton.mp member]
    rfl
  · exact absurd member List.not_mem_nil

theorem MountIndex.add_conflicts (mount : Mount) :
    ∀ fault ∈ (index.add tree mount).2, fault.isConflict = true := by
  intro fault member
  rcases List.mem_append.mp member with aliased | identified
  · exact MountIndex.addAliases_conflicts _ _ fault aliased
  · exact MountIndex.addIdentifier_conflicts _ mount.id fault identified

theorem Fault.cutsOff_of_isConflict {fault : Fault} (conflict : fault.isConflict = true) :
    fault.cutsOff = false := by
  cases fault <;> first | rfl | cases conflict

end Conflicts

def issuesAt (location : String) (faults : List Fault) : List Issue :=
  faults.map fun fault => ⟨location, fault⟩

section Issues

variable {wanted : Fault → Bool} {faults : List Fault}

theorem filter_issuesAt (location : String) :
    (issuesAt location faults).filter (wanted ·.fault) = issuesAt location (faults.filter wanted) := by
  rw [issuesAt, issuesAt, List.filter_map]
  rfl

theorem filter_issuesAt_eq_nil (location : String) (unwanted : ∀ fault ∈ faults, wanted fault = false) :
    (issuesAt location faults).filter (wanted ·.fault) = [] := by
  have none_left : faults.filter wanted = [] :=
    List.filter_eq_nil_iff.mpr fun fault member => Bool.eq_false_iff.mp (unwanted fault member)
  rw [filter_issuesAt, none_left]
  rfl

end Issues

end SiteRouting
