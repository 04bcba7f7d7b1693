import Mathlib
import SiteRouting.Proofs.Config.NamePlaces
import SiteRouting.Proofs.Config.Names

namespace SiteRouting

/-- A defect of the value at a place. A document is refused exactly if there
is one, and a place may have several of them. -/
structure Finding where
  place : DocumentPlace
  defect : Defect
  deriving DecidableEq, Repr

def Finding.violation (finding : Finding) : Violation :=
  ⟨finding.place.field, finding.defect⟩

/-- A site path can have two defects: that it is relative is told
before that it is repeated. -/
inductive Defect.Before : Defect → Defect → Prop where
  | relative {path : String} : Defect.Before .relativePath (.duplicateSite path)

inductive Finding.Before : Finding → Finding → Prop where
  | place {a b : Finding} (earlier : a.place.Before b.place) : Finding.Before a b
  | defect {place : DocumentPlace} {a b : Defect} (earlier : a.Before b) :
      Finding.Before ⟨place, a⟩ ⟨place, b⟩

theorem Finding.Before.irrefl (finding : Finding) : ¬ finding.Before finding := by
  intro before
  cases before with
  | place earlier => exact earlier.irrefl
  | defect earlier => cases earlier

structure IsDefaultHost (name : String) : Prop where
  visible : Text.isBlankText name = false
  allowed : ∀ c ∈ name.toList, c ≠ ':' ∧ c ≠ '/' ∧ Text.isBlank c = false

/-- The defects of a document, told without regard to how validation
looks for them. -/
inductive Configuration.HasDefect (config : Configuration) : DocumentPlace → Defect → Prop where
  | scheme {scheme : String} (set : config.hosts.scheme = some scheme)
      (unknown : scheme ∉ ["", "http", "https"]) :
      HasDefect config (.setting .scheme) (.unsupportedScheme scheme)
  | responseCode {code : Nat} (set : config.hosts.schemeNotMatchingResponseCode = code)
      (unsupported : code ∉ supportedResponseCodes) :
      HasDefect config (.setting .responseCode) (.unsupportedResponseCode code)
  | defaultHostName {name : String} (set : config.hosts.defaultHostName = some name)
      (malformed : ¬ IsDefaultHost name) :
      HasDefect config (.setting .defaultHostName) (.noHostName name)
  | relativePath {position : Nat} {site : SiteNode} (here : config.sites[position]? = some site)
      (relative : ∀ rest, site.path ≠ "/" ++ rest) :
      HasDefect config (.sitePath position) .relativePath
  | duplicateSite {position earlier : Nat} {site other : SiteNode}
      (here : config.sites[position]? = some site) (before : earlier < position)
      (there : config.sites[earlier]? = some other) (same : other.path = site.path) :
      HasDefect config (.sitePath position) (.duplicateSite site.path)
  | emptyName {group : Nat} {way : List DocumentStep} {name : String}
      (here : config.nameAt? group way = some name) (blank : Text.isBlankText name = true) :
      HasDefect config (.name group way) .emptyName
  | nameWithSlash {group : Nat} {way : List DocumentStep} {name : String}
      (here : config.nameAt? group way = some name) (slash : '/' ∈ name.toList) :
      HasDefect config (.name group way) (.nameWithSlash name)
  | emptyApiKey (enabled : config.admin.enabled = true)
      (blank : Text.isBlankText config.admin.apiKey = true) :
      HasDefect config (.setting .apiKey) .emptyApiKey
  | unknownLogFormat {format : String} (set : config.observability.logFormat = format)
      (unknown : format ∉ ["pretty", "json"]) :
      HasDefect config (.setting .logFormat) (.unknownLogFormat format)

structure Configuration.IsSound (config : Configuration) : Prop where
  scheme : ∀ scheme, config.hosts.scheme = some scheme → scheme = "" ∨ scheme = "http" ∨ scheme = "https"
  responseCode : config.hosts.schemeNotMatchingResponseCode ∈ supportedResponseCodes
  defaultHostName : ∀ name, config.hosts.defaultHostName = some name → IsDefaultHost name
  absolute : ∀ site ∈ config.sites, ∃ rest, site.path = "/" ++ rest
  distinct : (config.sites.map (·.path)).Nodup
  names : ∀ group way name, config.nameAt? group way = some name →
    Text.isBlankText name = false ∧ '/' ∉ name.toList
  apiKey : config.admin.enabled = true → Text.isBlankText config.admin.apiKey = false
  logFormat : config.observability.logFormat = "pretty" ∨ config.observability.logFormat = "json"

section Checks

theorem isKnownScheme_iff {scheme : String} :
    isKnownScheme scheme = true ↔ scheme ∈ ["", "http", "https"] := by
  simp [isKnownScheme, or_assoc]

theorem isHostName_iff {name : String} : isHostName name = true ↔ IsDefaultHost name := by
  simp only [isHostName, Bool.and_eq_true, Bool.not_eq_true', List.any_eq_false, Bool.or_eq_true,
    beq_iff_eq, not_or, Bool.not_eq_true]
  exact ⟨fun ⟨visible, allowed⟩ => ⟨visible, fun c member => and_assoc.mp (allowed c member)⟩,
    fun ⟨visible, allowed⟩ => ⟨visible, fun c member => and_assoc.mpr (allowed c member)⟩⟩

theorem nameDefect?_eq_some_iff {name : String} {defect : Defect} :
    nameDefect? name = some defect ↔
      defect = .emptyName ∧ Text.isBlankText name = true ∨
        defect = .nameWithSlash name ∧ '/' ∈ name.toList := by
  have visible (slash : '/' ∈ name.toList) : Text.isBlankText name = false :=
    List.all_eq_false.mpr ⟨'/', slash, by decide⟩
  unfold nameDefect? Text.hasChar
  split
  · rename_i blank
    simp only [Option.some.injEq, blank, and_true, eq_comm (a := defect)]
    refine ⟨Or.inl, Or.rec id fun ⟨_, slash⟩ => ?_⟩
    rw [visible slash] at blank
    cases blank
  · rename_i notBlank
    split <;> rename_i slash <;> simp_all [eq_comm (a := defect)]

end Checks

/-- What is inspected: a place with the defects of the value there, in the
order in which they are told. -/
abbrev Inspections := List (DocumentPlace × List Defect)

abbrev Inspections.IsOrdered (inspected : Inspections) : Prop :=
  inspected.Pairwise fun a b => a.1.Before b.1

def Inspections.findings (inspected : Inspections) : List Finding :=
  inspected.flatMap fun (place, defects) => defects.map fun defect => ⟨place, defect⟩

def Inspections.violations (inspected : Inspections) : List Violation :=
  inspected.findings.map Finding.violation

def Configuration.settingDefect? (config : Configuration) : DocumentSetting → Option Defect
  | .scheme =>
    config.hosts.scheme.bind fun scheme =>
      if isKnownScheme scheme then none else some (.unsupportedScheme scheme)
  | .responseCode =>
    if isSupportedResponseCode config.hosts.schemeNotMatchingResponseCode then none
    else some (.unsupportedResponseCode config.hosts.schemeNotMatchingResponseCode)
  | .defaultHostName =>
    config.hosts.defaultHostName.bind fun name => if isHostName name then none else some (.noHostName name)
  | .apiKey =>
    if config.admin.enabled && Text.isBlankText config.admin.apiKey then some .emptyApiKey else none
  | .logFormat =>
    if config.observability.logFormat == "pretty" || config.observability.logFormat == "json" then none
    else some (.unknownLogFormat config.observability.logFormat)

def SiteNode.defects (earlier : List String) (site : SiteNode) : List Defect :=
  (if Text.startsWith site.path "/" then [] else [.relativePath]) ++
    (if earlier.contains site.path then [.duplicateSite site.path] else [])

def inspectedSites (position : Nat) (earlier : List String) : List SiteNode → Inspections
  | [] => []
  | site :: rest =>
    (.sitePath position, site.defects earlier) :: inspectedSites (position + 1) (site.path :: earlier) rest

def inspectedNames (groups : List GroupNode) : Inspections :=
  (groupNames 0 groups).map fun (place, name) => (place, (nameDefect? name).toList)

def Configuration.inspectedSettings (config : Configuration) (keys : List DocumentSetting) : Inspections :=
  keys.map fun key => (.setting key, (config.settingDefect? key).toList)

/-- All that validation inspects, in document order: what a document has once,
then its sites, then the names of its nodes, and what it says of the services. -/
def Configuration.inspected (config : Configuration) : Inspections :=
  config.inspectedSettings [.scheme, .responseCode, .defaultHostName] ++
    (inspectedSites 0 [] config.sites ++ (inspectedNames config.hostGroups ++
      config.inspectedSettings [.apiKey, .logFormat]))

section Inspections

variable {config : Configuration} {inspected : Inspections} {place : DocumentPlace} {defect : Defect}

theorem Inspections.mem_findings :
    ⟨place, defect⟩ ∈ inspected.findings ↔ ∃ defects, (place, defects) ∈ inspected ∧ defect ∈ defects := by
  simp [Inspections.findings]

theorem Inspections.pairwise_findings (ordered : inspected.IsOrdered)
    (told : ∀ entry ∈ inspected, entry.2.Pairwise Defect.Before) :
    inspected.findings.Pairwise Finding.Before := by
  refine List.pairwise_flatMap.mpr ⟨?_, ?_⟩
  · intro entry member
    exact List.pairwise_map.mpr ((told entry member).imp fun earlier => .defect earlier)
  · refine ordered.imp fun {a b} earlier => ?_
    intro x inA y inB
    obtain ⟨_, _, rfl⟩ := List.mem_map.mp inA
    obtain ⟨_, _, rfl⟩ := List.mem_map.mp inB
    exact .place earlier

theorem Inspections.violations_append (inspected others : Inspections) :
    Inspections.violations (inspected ++ others) = inspected.violations ++ others.violations := by
  rw [Inspections.violations, Inspections.findings, List.flatMap_append, List.map_append]
  rfl

theorem Inspections.violations_cons (place : DocumentPlace) (defects : List Defect) (rest : Inspections) :
    Inspections.violations ((place, defects) :: rest) =
      (defects.map fun defect => ⟨place.field, defect⟩) ++ rest.violations := by
  rw [Inspections.violations, Inspections.findings, List.flatMap_cons, List.map_append, List.map_map]
  rfl

theorem mem_inspectedSites {position : Nat} {earlier : List String} {sites : List SiteNode}
    {defects : List Defect} :
    (place, defects) ∈ inspectedSites position earlier sites ↔
      ∃ i site, sites[i]? = some site ∧ place = .sitePath (position + i) ∧
        defects = site.defects (((sites.take i).map (·.path)).reverse ++ earlier) := by
  induction sites generalizing position earlier with
  | nil => simp [inspectedSites]
  | cons first rest ih =>
    rw [inspectedSites, List.mem_cons, ih, Prod.mk.injEq]
    constructor
    · rintro (⟨rfl, rfl⟩ | ⟨i, site, here, rfl, rfl⟩)
      · exact ⟨0, first, rfl, rfl, rfl⟩
      · exact ⟨i + 1, site, here, by rw [Nat.add_right_comm, Nat.add_assoc], by simp⟩
    · rintro ⟨i, site, here, rfl, rfl⟩
      cases i with
      | zero =>
        cases here
        exact .inl ⟨rfl, rfl⟩
      | succ i => exact .inr ⟨i, site, here, by rw [Nat.add_right_comm, Nat.add_assoc], by simp⟩

theorem siteViolations_eq (position : Nat) (earlier : List String) (sites : List SiteNode) :
    siteViolations position earlier sites = (inspectedSites position earlier sites).violations := by
  have field (position : Nat) : elementField "sites" position ++ ".path" =
      (DocumentPlace.sitePath position).field := by
    rw [← String.toList_inj]
    simp [DocumentPlace.field, DocumentPlace.segments]
  induction sites generalizing position earlier with
  | nil => rfl
  | cons site rest ih =>
    rw [siteViolations, ih, inspectedSites, Inspections.violations_cons, SiteNode.defects, List.map_append]
    rw [field]
    congr 2 <;> split <;> rfl

theorem groupViolations_eq (groups : List GroupNode) :
    groupViolations 0 groups = (inspectedNames groups).violations := by
  rw [groupViolations_namedWays, Inspections.violations, Inspections.findings, inspectedNames,
    List.flatMap_map, List.map_flatMap]
  simp only [List.map_map]
  rfl

theorem Defaults.violations_eq (config : Configuration) :
    config.hosts.violations =
      (config.inspectedSettings [.scheme, .responseCode, .defaultHostName]).violations := by
  rw [Configuration.inspectedSettings, List.map_cons, List.map_cons, List.map_cons,
    Inspections.violations_cons, Inspections.violations_cons, Inspections.violations_cons,
    Defaults.violations, List.append_assoc]
  congr 1
  · unfold Configuration.settingDefect?
    cases config.hosts.scheme with
    | none => rfl
    | some scheme => by_cases known : isKnownScheme scheme <;> simp only [known, Option.bind] <;> rfl
  congr 1
  · unfold Configuration.settingDefect?
    split <;> rfl
  · unfold Configuration.settingDefect?
    cases config.hosts.defaultHostName with
    | none => rfl
    | some name => by_cases named : isHostName name <;> simp only [named, Option.bind] <;> rfl

theorem Configuration.violations_eq (config : Configuration) :
    config.violations = config.inspected.violations := by
  have ending : config.admin.violations ++ config.observability.violations =
      (config.inspectedSettings [.apiKey, .logFormat]).violations := by
    rw [Configuration.inspectedSettings, List.map_cons, List.map_cons, Inspections.violations_cons,
      Inspections.violations_cons, AdminSettings.violations, ObservabilitySettings.violations]
    unfold Configuration.settingDefect?
    congr 1 <;> split <;> rfl
  rw [Configuration.violations, Configuration.inspected, Defaults.violations_eq, siteViolations_eq,
    groupViolations_eq]
  simp only [Inspections.violations_append, ← ending, List.append_assoc]

theorem part_of_mem_inspectedSites {position : Nat} {earlier : List String} {sites : List SiteNode} :
    ∀ entry ∈ inspectedSites position earlier sites, entry.1.part = 3 := by
  rintro ⟨place, defects⟩ member
  obtain ⟨_, _, _, rfl, _⟩ := mem_inspectedSites.mp member
  rfl

theorem part_of_mem_inspectedNames {groups : List GroupNode} :
    ∀ entry ∈ inspectedNames groups, entry.1.part = 4 := by
  intro entry member
  obtain ⟨⟨place, name⟩, named, rfl⟩ := List.mem_map.mp member
  obtain ⟨_, _, _, _, rfl, _⟩ := mem_groupNames_iff.mp named
  rfl

theorem inspectedSites_isOrdered (position : Nat) (earlier : List String) (sites : List SiteNode) :
    (inspectedSites position earlier sites).IsOrdered := by
  induction sites generalizing position earlier with
  | nil => exact List.Pairwise.nil
  | cons site rest ih =>
    refine List.pairwise_cons.mpr ⟨?_, ih _ _⟩
    rintro ⟨place, defects⟩ later
    obtain ⟨i, _, _, rfl, _⟩ := mem_inspectedSites.mp later
    exact .site (by omega)

theorem Configuration.inspectedSettings_isOrdered {keys : List DocumentSetting}
    (ascending : (keys.map fun key => (DocumentPlace.setting key).part).Pairwise (· < ·)) :
    (config.inspectedSettings keys).IsOrdered :=
  List.pairwise_map.mpr ((List.pairwise_map.mp ascending).imp fun earlier => .part earlier)

theorem Configuration.inspected_isOrdered (config : Configuration) : config.inspected.IsOrdered := by
  have first : ∀ entry ∈ config.inspectedSettings [.scheme, .responseCode, .defaultHostName],
      entry.1.part < 3 := by simp [Configuration.inspectedSettings, DocumentPlace.part]
  have last : ∀ entry ∈ config.inspectedSettings [.apiKey, .logFormat], 4 < entry.1.part := by
    simp [Configuration.inspectedSettings, DocumentPlace.part]
  have names : (inspectedNames config.hostGroups).IsOrdered :=
    List.pairwise_map.mpr (groupNames_isOrdered 0 config.hostGroups)
  refine List.pairwise_append.mpr ⟨Configuration.inspectedSettings_isOrdered (by decide),
    List.pairwise_append.mpr ⟨inspectedSites_isOrdered 0 [] config.sites,
      List.pairwise_append.mpr ⟨names, Configuration.inspectedSettings_isOrdered (by decide), ?_⟩, ?_⟩, ?_⟩
  · intro a isName b isLast
    exact .part (part_of_mem_inspectedNames a isName ▸ last b isLast)
  · intro a isSite b later
    refine .part (part_of_mem_inspectedSites a isSite ▸ ?_)
    rcases List.mem_append.mp later with isName | isLast
    · exact part_of_mem_inspectedNames b isName ▸ Nat.lt_succ_self 3
    · exact Nat.lt_of_succ_lt (last b isLast)
  · intro a isFirst b later
    refine .part (Nat.lt_of_lt_of_le (first a isFirst) ?_)
    rcases List.mem_append.mp later with isSite | later
    · exact (part_of_mem_inspectedSites b isSite).ge
    rcases List.mem_append.mp later with isName | isLast
    · exact part_of_mem_inspectedNames b isName ▸ Nat.le_succ 3
    · exact (Nat.lt_of_succ_lt (last b isLast)).le

/-- What is inspected: the values that a document has once, its sites,
and its names. -/
theorem Configuration.mem_inspected_iff {defects : List Defect} :
    (place, defects) ∈ config.inspected ↔
      (∃ key, place = .setting key ∧ defects = (config.settingDefect? key).toList) ∨
      (∃ position site, config.sites[position]? = some site ∧ place = .sitePath position ∧
        defects = site.defects ((config.sites.take position).map (·.path)).reverse) ∨
      ∃ group way name, config.nameAt? group way = some name ∧ place = .name group way ∧
        defects = (nameDefect? name).toList := by
  have settings : (∃ key, place = .setting key ∧ defects = (config.settingDefect? key).toList) ↔
      (place, defects) ∈ config.inspectedSettings [.scheme, .responseCode, .defaultHostName] ∨
        (place, defects) ∈ config.inspectedSettings [.apiKey, .logFormat] := by
    rw [← List.mem_append, Configuration.inspectedSettings, Configuration.inspectedSettings,
      ← List.map_append, List.mem_map]
    simp only [Prod.mk.injEq]
    constructor
    · rintro ⟨key, rfl, rfl⟩
      exact ⟨key, by cases key <;> decide, rfl, rfl⟩
    · rintro ⟨key, _, rfl, rfl⟩
      exact ⟨key, rfl, rfl⟩
  have names : (∃ group way name, config.nameAt? group way = some name ∧ place = .name group way ∧
        defects = (nameDefect? name).toList) ↔ (place, defects) ∈ inspectedNames config.hostGroups := by
    simp only [inspectedNames, List.mem_map, Prod.mk.injEq, Prod.exists, Configuration.mem_groupNames_iff]
    constructor
    · rintro ⟨group, way, name, here, rfl, rfl⟩
      exact ⟨_, name, ⟨group, way, rfl, here⟩, rfl, rfl⟩
    · rintro ⟨_, name, ⟨group, way, rfl, here⟩, rfl, rfl⟩
      exact ⟨group, way, name, here, rfl, rfl⟩
  rw [settings, names, Configuration.inspected, List.mem_append, List.mem_append, List.mem_append,
    mem_inspectedSites]
  simp only [Nat.zero_add, List.append_nil, or_assoc]
  exact or_congr_right or_rotate.symm

theorem pairwise_of_mem_inspected :
    ∀ entry ∈ config.inspected, entry.2.Pairwise Defect.Before := by
  have alone (found : Option Defect) : found.toList.Pairwise Defect.Before := by cases found <;> simp
  rintro ⟨place, defects⟩ member
  rcases Configuration.mem_inspected_iff.mp member with
    ⟨key, rfl, rfl⟩ | ⟨_, site, _, rfl, rfl⟩ | ⟨_, _, name, _, rfl, rfl⟩
  · exact alone _
  · unfold SiteNode.defects
    refine List.pairwise_append.mpr ⟨?_, ?_, ?_⟩
    · split <;> simp
    · split <;> simp
    · intro a first b second
      split at first <;> split at second <;> simp_all [Defect.Before.relative]
  · exact alone _

theorem Configuration.settingDefect?_eq_some_iff {key : DocumentSetting} :
    config.settingDefect? key = some defect ↔ config.HasDefect (.setting key) defect := by
  constructor
  · intro found
    cases key with
    | scheme =>
      obtain ⟨scheme, set, found⟩ := Option.bind_eq_some_iff.mp found
      obtain ⟨unknown, same⟩ := Option.ite_none_left_eq_some.mp found
      cases same
      exact .scheme set (isKnownScheme_iff.not.mp unknown)
    | responseCode =>
      obtain ⟨unsupported, same⟩ := Option.ite_none_left_eq_some.mp found
      cases same
      exact .responseCode rfl (by simpa [isSupportedResponseCode] using unsupported)
    | defaultHostName =>
      obtain ⟨name, set, found⟩ := Option.bind_eq_some_iff.mp found
      obtain ⟨malformed, same⟩ := Option.ite_none_left_eq_some.mp found
      cases same
      exact .defaultHostName set (isHostName_iff.not.mp malformed)
    | apiKey =>
      obtain ⟨keyless, same⟩ := Option.ite_none_right_eq_some.mp found
      cases same
      obtain ⟨enabled, blank⟩ := Bool.and_eq_true_iff.mp keyless
      exact .emptyApiKey enabled blank
    | logFormat =>
      obtain ⟨unknown, same⟩ := Option.ite_none_left_eq_some.mp found
      cases same
      exact .unknownLogFormat rfl (by simpa using unknown)
  · intro has
    cases has with
    | scheme set unknown => simp [Configuration.settingDefect?, set, isKnownScheme_iff.not.mpr unknown]
    | responseCode set unsupported =>
      subst set
      simp [Configuration.settingDefect?, isSupportedResponseCode, unsupported]
    | defaultHostName set malformed =>
      simp [Configuration.settingDefect?, set, isHostName_iff.not.mpr malformed]
    | emptyApiKey enabled blank => simp [Configuration.settingDefect?, enabled, blank]
    | unknownLogFormat set unknown =>
      subst set
      simpa [Configuration.settingDefect?] using unknown

theorem Configuration.mem_paths_before_iff {position : Nat} {path : String} :
    path ∈ (config.sites.take position).map (·.path) ↔
      ∃ earlier other, earlier < position ∧ config.sites[earlier]? = some other ∧ other.path = path := by
  rw [List.mem_map]
  simp only [List.mem_iff_getElem?, List.getElem?_take, Option.ite_none_right_eq_some]
  constructor
  · rintro ⟨other, ⟨earlier, before, there⟩, same⟩
    exact ⟨earlier, other, before, there, same⟩
  · rintro ⟨earlier, other, before, there, same⟩
    exact ⟨other, ⟨earlier, before, there⟩, same⟩

theorem SiteNode.mem_defects_iff {position : Nat} {site : SiteNode}
    (here : config.sites[position]? = some site) :
    defect ∈ site.defects ((config.sites.take position).map (·.path)).reverse ↔
      config.HasDefect (.sitePath position) defect := by
  rw [SiteNode.defects, List.mem_append]
  constructor
  · rintro (isRelative | isRepeated)
    · split at isRelative
      · cases isRelative
      · rename_i relative
        rw [List.mem_singleton.mp isRelative]
        exact .relativePath here fun rest same => relative (Text.startsWith_iff.mpr ⟨rest, same⟩)
    · split at isRepeated
      · rename_i before
        rw [List.mem_singleton.mp isRepeated]
        rw [List.contains_iff_mem, List.mem_reverse, Configuration.mem_paths_before_iff] at before
        obtain ⟨earlier, other, before, there, same⟩ := before
        exact .duplicateSite here before there same
      · cases isRepeated
  · intro has
    cases has with
    | relativePath there relative =>
      cases here.symm.trans there
      rw [if_neg fun absolute => (Text.startsWith_iff.mp absolute).elim relative]
      exact .inl List.mem_cons_self
    | duplicateSite there before earlier same =>
      cases here.symm.trans there
      rw [if_pos (List.contains_iff_mem.mpr (List.mem_reverse.mpr
        (Configuration.mem_paths_before_iff.mpr ⟨_, _, before, earlier, same⟩)))]
      exact .inr List.mem_cons_self

theorem nameDefect?_eq_some_iff_hasDefect {group : Nat} {way : List DocumentStep} {name : String}
    (here : config.nameAt? group way = some name) :
    nameDefect? name = some defect ↔ config.HasDefect (.name group way) defect := by
  rw [nameDefect?_eq_some_iff]
  constructor
  · rintro (⟨rfl, blank⟩ | ⟨rfl, slash⟩)
    · exact .emptyName here blank
    · exact .nameWithSlash here slash
  · intro has
    cases has with
    | emptyName there blank =>
      cases here.symm.trans there
      exact .inl ⟨rfl, blank⟩
    | nameWithSlash there slash =>
      cases here.symm.trans there
      exact .inr ⟨rfl, slash⟩

theorem Configuration.mem_findings_iff :
    ⟨place, defect⟩ ∈ config.inspected.findings ↔ config.HasDefect place defect := by
  rw [Inspections.mem_findings]
  constructor
  · rintro ⟨defects, inspected, told⟩
    rcases Configuration.mem_inspected_iff.mp inspected with
      ⟨key, rfl, rfl⟩ | ⟨_, site, here, rfl, rfl⟩ | ⟨_, _, name, here, rfl, rfl⟩
    · exact Configuration.settingDefect?_eq_some_iff.mp (Option.mem_toList.mp told)
    · exact (SiteNode.mem_defects_iff here).mp told
    · exact (nameDefect?_eq_some_iff_hasDefect here).mp (Option.mem_toList.mp told)
  · intro has
    cases place with
    | setting key =>
      have told := Option.mem_toList.mpr (Configuration.settingDefect?_eq_some_iff.mpr has)
      exact ⟨_, Configuration.mem_inspected_iff.mpr (.inl ⟨key, rfl, rfl⟩), told⟩
    | sitePath position =>
      obtain ⟨site, here⟩ : ∃ site, config.sites[position]? = some site := by
        cases has with
        | relativePath here _ => exact ⟨_, here⟩
        | duplicateSite here _ _ _ => exact ⟨_, here⟩
      exact ⟨_, Configuration.mem_inspected_iff.mpr (.inr (.inl ⟨position, site, here, rfl, rfl⟩)),
        (SiteNode.mem_defects_iff here).mpr has⟩
    | name group way =>
      obtain ⟨name, here⟩ : ∃ name, config.nameAt? group way = some name := by
        cases has with
        | emptyName here _ => exact ⟨_, here⟩
        | nameWithSlash here _ => exact ⟨_, here⟩
      exact ⟨_, Configuration.mem_inspected_iff.mpr (.inr (.inr ⟨group, way, name, here, rfl, rfl⟩)),
        Option.mem_toList.mpr ((nameDefect?_eq_some_iff_hasDefect here).mpr has)⟩

end Inspections

section Soundness

variable {config : Configuration}

theorem Configuration.isValid_iff_forall :
    config.isValid = true ↔ ∀ place defect, ¬ config.HasDefect place defect := by
  rw [Configuration.isValid, List.isEmpty_iff, Configuration.violations_eq, Inspections.violations,
    List.map_eq_nil_iff, List.eq_nil_iff_forall_not_mem]
  constructor
  · intro none place defect has
    exact none ⟨place, defect⟩ (Configuration.mem_findings_iff.mpr has)
  · intro none finding told
    exact none finding.place finding.defect (Configuration.mem_findings_iff.mp told)

theorem Configuration.nodup_paths_iff :
    (config.sites.map (·.path)).Nodup ↔
      ∀ position path, ¬ config.HasDefect (.sitePath position) (.duplicateSite path) := by
  rw [List.Nodup, List.pairwise_map, List.pairwise_iff_getElem]
  constructor
  · intro distinct position path has
    cases has with
    | duplicateSite here before there same =>
      obtain ⟨inside, rfl⟩ := List.getElem?_eq_some_iff.mp here
      obtain ⟨insideToo, rfl⟩ := List.getElem?_eq_some_iff.mp there
      exact distinct _ _ insideToo inside before same
  · intro none earlier position insideToo inside before same
    exact none _ _ (.duplicateSite (List.getElem?_eq_getElem inside) before
      (List.getElem?_eq_getElem insideToo) same)

theorem Configuration.isSound_iff :
    config.IsSound ↔ ∀ place defect, ¬ config.HasDefect place defect := by
  constructor
  · intro sound place defect has
    cases has with
    | scheme set unknown => exact unknown (by simpa using sound.scheme _ set)
    | responseCode set unsupported => exact unsupported (set ▸ sound.responseCode)
    | defaultHostName set malformed => exact malformed (sound.defaultHostName _ set)
    | relativePath here relative => exact (sound.absolute _ (List.mem_of_getElem? here)).elim relative
    | duplicateSite here before there same =>
      exact Configuration.nodup_paths_iff.mp sound.distinct _ _ (.duplicateSite here before there same)
    | emptyName here blank => exact Bool.false_ne_true ((sound.names _ _ _ here).1.symm.trans blank)
    | nameWithSlash here slash => exact (sound.names _ _ _ here).2 slash
    | emptyApiKey enabled blank => exact Bool.false_ne_true ((sound.apiKey enabled).symm.trans blank)
    | unknownLogFormat set unknown => exact unknown (by simpa [set] using sound.logFormat)
  · intro none
    refine ⟨?_, ?_, ?_, ?_, ?_, ?_, ?_, ?_⟩
    · intro scheme set
      by_contra unknown
      exact none _ _ (.scheme set (by simpa using unknown))
    · by_contra unsupported
      exact none _ _ (.responseCode rfl unsupported)
    · intro name set
      by_contra malformed
      exact none _ _ (.defaultHostName set malformed)
    · intro site member
      obtain ⟨position, here⟩ := List.mem_iff_getElem?.mp member
      by_contra relative
      exact none _ _ (.relativePath here (not_exists.mp relative))
    · exact Configuration.nodup_paths_iff.mpr fun position path => none _ _
    · intro group way name here
      refine ⟨Bool.eq_false_iff.mpr fun blank => ?_, fun slash => ?_⟩
      · exact none _ _ (.emptyName here blank)
      · exact none _ _ (.nameWithSlash here slash)
    · exact fun enabled => Bool.eq_false_iff.mpr fun blank => none _ _ (.emptyApiKey enabled blank)
    · by_contra unknown
      exact none _ _ (.unknownLogFormat rfl (by simpa using unknown))

/-- Validation accepts exactly the sound documents. Of another one it
tells every defect of every value once, in document order, under a
path that no other value has. -/
theorem Configuration.validation_tells (config : Configuration) :
    (config.isValid = true ↔ config.IsSound) ∧ Function.Injective DocumentPlace.field ∧
      ∃ findings : List Finding, config.violations = findings.map Finding.violation ∧
        findings.Pairwise Finding.Before ∧ findings.Nodup ∧
        ∀ finding, finding ∈ findings ↔ config.HasDefect finding.place finding.defect := by
  have ordered : config.inspected.findings.Pairwise Finding.Before :=
    Inspections.pairwise_findings config.inspected_isOrdered pairwise_of_mem_inspected
  refine ⟨Configuration.isValid_iff_forall.trans Configuration.isSound_iff.symm,
    DocumentPlace.field_injective, config.inspected.findings, config.violations_eq, ordered, ?_, ?_⟩
  · refine ordered.imp ?_
    rintro a b earlier rfl
    exact earlier.irrefl
  · exact fun finding => Configuration.mem_findings_iff

example :
    let relative : SiteNode := ⟨"sites/a", "/content/a", none⟩
    let mount : MountNode := .node {} [.named "a/b"]
    (Configuration.violations {
      hosts := { schemeNotMatchingResponseCode := 500 }
      sites := [relative, relative]
      hostGroups := [⟨"prod", none, [.node { name := "com" } (some mount) [] []]⟩]
    }).map (·.field) = ["hosts.scheme_not_matching_response_code", "sites[0].path", "sites[1].path",
      "sites[1].path", "host_groups[0].hosts[0].root.mounts[0].name"] := by decide +kernel

end Soundness

end SiteRouting
