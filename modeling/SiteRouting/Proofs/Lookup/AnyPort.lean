import Mathlib
import SiteRouting.Proofs.Lookup.Refusal
import SiteRouting.Proofs.Text.Trimming

namespace SiteRouting

open Text

section Parse

variable {name : String} {port : Port}

theorem RequestHost.named_trim (name : String) (port : Port) :
    RequestHost.named (trim name) port = RequestHost.named name port := by
  have same : normalizeHostName (trim name) = normalizeHostName name := by
    rw [normalizeHostName, trim_trim, ← normalizeHostName]
  unfold RequestHost.named
  rw [same]

theorem RequestHost.parse_of_no_colon (plain : ':' ∉ name.toList) :
    RequestHost.parse name = RequestHost.named name anyPort := by
  have absent : ':' ∉ (trim name).toList := by
    rw [toList_trim]
    exact fun member => plain (mem_of_mem_stripChars member)
  have uncut : splitFirst? ':' (trim name) = none := by
    rw [splitFirst?, cutFirst?_eq_none_iff.mpr absent, Option.map_none]
  rw [RequestHost.parse, uncut]
  exact RequestHost.named_trim name anyPort

theorem toList_portText : (s!"{name}:{port}").toList = name.toList ++ ':' :: (toString port).toList := by
  change (name ++ ":" ++ toString port).toList = _
  simp

theorem isBlank_portDigit {c : Char} (member : c ∈ (toString port).toList) : isBlank c = false := by
  rw [Nat.toString_eq_repr, Nat.toList_repr] at member
  exact isBlank_of_isDigit (Nat.isDigit_of_mem_toDigits (by decide) (by decide) member)

/-- A name without a colon is read in the same way with a port behind it.
Blanks between the name and the colon are part of neither. -/
theorem RequestHost.parse_portText (plain : ':' ∉ name.toList) (fits : port ≤ maxPort) :
    RequestHost.parse s!"{name}:{port}" = RequestHost.named name port := by
  have front : ':' ∉ name.toList.dropWhile isBlank :=
    fun member => plain ((List.dropWhile_sublist isBlank).mem member)
  have trimmed : (trim s!"{name}:{port}").toList =
      name.toList.dropWhile isBlank ++ ':' :: (toString port).toList := by
    rw [toList_trim, toList_portText]
    exact stripChars_append_cons _ (by decide) fun d member => isBlank_portDigit member
  have cut : splitFirst? ':' (trim s!"{name}:{port}") =
      some (String.ofList (name.toList.dropWhile isBlank), toString port) := by
    simp only [splitFirst?, trimmed, cutFirst?_append _ front, Option.map_some, String.ofList_toList]
  have same : trim (String.ofList (name.toList.dropWhile isBlank)) = trim name := by
    rw [trim, String.toList_ofList, stripChars_dropWhile, ← trim]
  simp only [RequestHost.parse, cut, numeral?_toString fits]
  rw [← RequestHost.named_trim, same, RequestHost.named_trim]

theorem RequestHost.named_on_port {request : RequestHost} (port : Port)
    (named : RequestHost.named name anyPort = .ok request) :
    RequestHost.named name port = .ok { request with port } := by
  simp only [RequestHost.named] at named ⊢
  split at named
  · cases named
  · rename_i kept
    rw [if_neg kept, ← Except.ok.inj named]

end Parse

section Choice

variable {tree : HostingTree}

theorem HostingTree.mem_of_host? {id : HostId} {host : VirtualHost} (held : tree.host? id = some host) :
    host ∈ tree.hosts :=
  Array.mem_of_getElem? held

theorem HostingTree.mem_of_descend {host found : VirtualHost} {labels : List String}
    (member : host ∈ tree.hosts) (descends : tree.descend host labels = some found) :
    found ∈ tree.hosts := by
  induction labels generalizing host with
  | nil =>
    cases descends
    exact member
  | cons label rest ih =>
    rw [HostingTree.descend] at descends
    split at descends
    · obtain ⟨id, _, held⟩ := Option.bind_eq_some_iff.mp descends
      exact HostingTree.mem_of_host? held
    · split at descends
      · cases descends
      · rename_i child held
        exact ih (HostingTree.mem_of_host? held) descends

theorem HostingTree.mem_of_findHost {group : HostGroup} {labels : List String} {found : VirtualHost}
    (finds : tree.findHost group labels = some found) : found ∈ tree.hosts := by
  unfold HostingTree.findHost at finds
  split at finds
  · cases finds
  · split at finds
    · cases finds
    · rename_i root top
      obtain ⟨id, _, held⟩ := Option.bind_eq_some_iff.mp top
      exact HostingTree.mem_of_descend (HostingTree.mem_of_host? held) finds

/-- A search for any port keeps nothing on its way: the host that it ends
with is the first one with a root mount for any port. -/
theorem HostingTree.chooseHost_anyPort {labels : List String} {groups : List HostGroup}
    {host : VirtualHost} {matched : Port}
    (chosen : tree.chooseHost labels anyPort none groups = some (host, matched)) :
    matched = anyPort ∧ host ∈ tree.hosts ∧ (host.rootMount? anyPort).isSome := by
  induction groups with
  | nil => cases chosen
  | cons group rest ih =>
    rw [HostingTree.chooseHost] at chosen
    split at chosen
    · exact ih chosen
    rename_i candidate found
    split at chosen
    · rename_i entry bound
      split at chosen
      · rename_i rooted
        obtain ⟨rfl, rfl⟩ := Prod.mk.inj (Option.some.inj chosen)
        refine ⟨rfl, HostingTree.mem_of_findHost found, ?_⟩
        rw [VirtualHost.rootMount?, bound]
        exact rooted
      · exact ih chosen
    · exact ih chosen

/-- Where no host has an entry for a port, the search for it ends with what
was kept before, else as the search for any port does. -/
theorem HostingTree.chooseHost_of_unbound {labels : List String} {port : Port} (positive : 0 < port)
    (unbound : ∀ host ∈ tree.hosts, host.portMount? port = none) (groups : List HostGroup)
    (kept : Option (VirtualHost × Port)) :
    tree.chooseHost labels port kept groups =
      (kept <|> tree.chooseHost labels anyPort none groups) := by
  have other : (port != anyPort) = true := bne_iff_ne.mpr (Nat.ne_of_gt positive)
  induction groups generalizing kept with
  | nil => cases kept <;> rfl
  | cons group rest ih =>
    rw [HostingTree.chooseHost, HostingTree.chooseHost]
    cases found : tree.findHost group labels with
    | none => exact ih kept
    | some host =>
      have free := unbound host (HostingTree.mem_of_findHost found)
      simp only [free, other, Bool.true_and]
      rw [ih]
      cases bound : host.portMount? anyPort with
      | none => simp [VirtualHost.rootMount?, bound]
      | some entry =>
        cases rooted : entry.root with
        | none => simp [VirtualHost.rootMount?, bound, rooted]
        | some root => cases kept <;> simp [VirtualHost.rootMount?, bound, rooted]

/-- The host found for a port that no host has an entry for is the one
found for any port, asked for under that port: the same host group
wins, through the same entry. -/
theorem HostingTree.matchHost_of_unbound {port : Port} (positive : 0 < port)
    (unbound : ∀ host ∈ tree.hosts, host.portMount? port = none) (name : String) :
    tree.matchHost name port = (tree.matchHost name anyPort).map fun found => { found with port } := by
  rw [HostingTree.matchHost, HostingTree.matchHost, tree.chooseHost_of_unbound positive unbound,
    Option.map_map]
  rfl

end Choice

def HostAnswer.underPort (answer : HostAnswer) (port : Port) : HostAnswer :=
  answer.map (·.map fun found => { found with port })

section LookUp

variable {registry : Registry} {port : Port}

/-- Whether there is a default host to ask does not depend on the port. -/
theorem Registry.fallback?_on_port (request : RequestHost) (port : Port) :
    registry.fallback? { request with port } = none ↔ registry.fallback? request = none := by
  unfold Registry.fallback?
  cases registry.settings.defaultHostName with
  | none => exact Iff.rfl
  | some name =>
    dsimp only
    split <;> simp

theorem Registry.lookUpOwn_fallback (host : registry.DefaultIsHostText) (positive : 0 < port)
    (fits : port ≤ maxPort) (unbound : ∀ host ∈ registry.tree.hosts, host.portMount? port = none)
    {request : RequestHost} (bare : request.port = anyPort) {fallback ported : String}
    (default : registry.fallback? request = some fallback)
    (defaultPorted : registry.fallback? { request with port } = some ported) :
    registry.lookUpOwn ported = (registry.lookUpOwn fallback).underPort port := by
  obtain ⟨name, configured, _, parsed⟩ :=
    registry.parse_fallback host (by rw [bare]; decide) default
  obtain ⟨same, configuredAgain, _, parsedPorted⟩ := registry.parse_fallback host fits defaultPorted
  cases configured.symm.trans configuredAgain
  rw [bare] at parsed
  rw [Registry.lookUpOwn, Registry.lookUpOwn, parsed, parsedPorted]
  cases named : RequestHost.named name anyPort with
  | error cause =>
    obtain ⟨nothing, rfl⟩ := RequestHost.named_eq_error_iff.mp named
    rw [RequestHost.named_eq_error_iff.mpr ⟨nothing, rfl⟩]
    rfl
  | ok own =>
    rw [RequestHost.named_on_port port named]
    have ownPort := RequestHost.named_port named
    simp only [Except.map, HostAnswer.underPort, ownPort,
      registry.tree.matchHost_of_unbound positive unbound]

/-- Without a memory, a name is looked up with a port that no host has an
entry for as it is looked up without a port. -/
theorem Registry.lookUp_portText (host : registry.DefaultIsHostText) (positive : 0 < port)
    (fits : port ≤ maxPort) (unbound : ∀ host ∈ registry.tree.hosts, host.portMount? port = none)
    {name : String} {request : RequestHost} (plain : ':' ∉ name.toList)
    (parsed : RequestHost.parse name = .ok request) :
    registry.lookUp s!"{name}:{port}" = (registry.lookUp name).underPort port := by
  have named : RequestHost.named name anyPort = .ok request :=
    (RequestHost.parse_of_no_colon plain).symm.trans parsed
  have bare := RequestHost.named_port named
  have parsedPorted : RequestHost.parse s!"{name}:{port}" = .ok { request with port } :=
    (RequestHost.parse_portText plain fits).trans (RequestHost.named_on_port port named)
  have choice := registry.tree.matchHost_of_unbound positive unbound request.name
  cases found : registry.tree.matchHost request.name anyPort with
  | some resolved =>
    rw [found] at choice
    rw [Registry.lookUp_of_found parsed (bare ▸ found), Registry.lookUp_of_found parsedPorted choice]
    rfl
  | none =>
    rw [found] at choice
    cases default : registry.fallback? request with
    | none =>
      have last := (registry.fallback?_on_port request port).mpr default
      rw [Registry.lookUp_of_missing parsed (bare ▸ found) default,
        Registry.lookUp_of_missing parsedPorted choice last]
      rfl
    | some fallback =>
      obtain ⟨ported, defaultPorted⟩ := Option.ne_none_iff_exists'.mp fun last =>
        Option.some_ne_none _ (default.symm.trans ((registry.fallback?_on_port request port).mp last))
      rw [Registry.lookUp_of_fallback parsed (bare ▸ found) default,
        Registry.lookUp_of_fallback parsedPorted choice defaultPorted]
      exact registry.lookUpOwn_fallback host positive fits unbound bare default defaultPorted

/-- Whoever asks for no port gets a host that was found for any port, through
the entry that it has for any port. -/
theorem Registry.exists_matchHost_of_lookUp (host : registry.DefaultIsHostText) {rawHost : String}
    {request : RequestHost} {found : ResolvedHost} (parsed : RequestHost.parse rawHost = .ok request)
    (bare : request.port = anyPort) (answered : registry.lookUp rawHost = .ok (some found)) :
    ∃ name, registry.tree.matchHost name anyPort = some found := by
  cases own : registry.tree.matchHost request.name anyPort with
  | some resolved =>
    rw [Registry.lookUp_of_found parsed (bare ▸ own)] at answered
    cases answered
    exact ⟨request.name, own⟩
  | none =>
    cases default : registry.fallback? request with
    | none =>
      rw [Registry.lookUp_of_missing parsed (bare ▸ own) default] at answered
      cases answered
    | some fallback =>
      obtain ⟨name, _, _, again⟩ := registry.parse_fallback host (by rw [bare]; decide) default
      rw [Registry.lookUp_of_fallback parsed (bare ▸ own) default, Registry.lookUpOwn, again] at answered
      cases named : RequestHost.named name request.port with
      | error cause =>
        rw [named] at answered
        cases answered
      | ok other =>
        rw [named] at answered
        have otherPort : other.port = anyPort := (RequestHost.named_port named).trans bare
        exact ⟨other.name, otherPort ▸ Except.ok.inj answered⟩

end LookUp

/-- A host found for any port is in the tree, and its entry for any
port has a root mount. -/
theorem HostingTree.matchHost_anyPort {tree : HostingTree} {name : String} {found : ResolvedHost}
    (finds : tree.matchHost name anyPort = some found) :
    found.tree = tree ∧ found.host ∈ tree.hosts ∧ found.port = anyPort ∧ found.matchedPort = anyPort ∧
      found.host.portMount? anyPort = some found.portMount ∧ found.portMount.root.isSome := by
  obtain ⟨⟨host, matched⟩, chosen, rfl⟩ := Option.map_eq_some_iff.mp finds
  obtain ⟨rfl, member, rooted⟩ := HostingTree.chooseHost_anyPort chosen
  obtain ⟨root, isRoot⟩ := Option.isSome_iff_exists.mp rooted
  obtain ⟨entry, isEntry, leads⟩ := Option.bind_eq_some_iff.mp isRoot
  refine ⟨rfl, member, rfl, rfl, ?_, ?_⟩
  · simp [ResolvedHost.portMount, isEntry]
  · simp [ResolvedHost.portMount, isEntry, leads]

/-- Three answers that say the same: one refusal, one miss, or one host of
the tree through its entry for any port, which has a root mount. Only the
port that was asked for may differ. -/
inductive HostingTree.AnyPortAnswers (tree : HostingTree) (port : Port) :
    HostAnswer → HostAnswer → HostAnswer → Prop where
  | refused (cause : MatchError) : tree.AnyPortAnswers port (.error cause) (.error cause) (.error cause)
  | missed : tree.AnyPortAnswers port (.ok none) (.ok none) (.ok none)
  | resolved (found : ResolvedHost) (inTree : found.host ∈ tree.hosts) (same : found.tree = tree)
      (unported : found.port = anyPort) (matched : found.matchedPort = anyPort)
      (entry : found.host.portMount? anyPort = some found.portMount)
      (rooted : found.portMount.root.isSome) :
      tree.AnyPortAnswers port (.ok (some found)) (.ok (some found)) (.ok (some { found with port }))

/-- On the registry of a valid configuration, after any lookups, a host that
is asked for without a port, with port 0, or with a port that no host has an
entry for gets the same answer three times. -/
theorem Configuration.lookups_agree_on_unbound_port {config : Configuration} {policy : BuildPolicy}
    {generation : Nat} {registry : Registry} (valid : config.isValid)
    (built : config.build policy generation = .ok registry) {name : String} {request : RequestHost}
    (plain : ':' ∉ name.toList) (parsed : RequestHost.parse name = .ok request) {port : Port}
    (positive : 0 < port) (fits : port ≤ maxPort)
    (unbound : ∀ host ∈ registry.tree.hosts, host.portMount? port = none)
    (first second third : List Lookup) :
    registry.tree.AnyPortAnswers port ((registry.after first).matchHost name).answer
      ((registry.after second).matchHost s!"{name}:{anyPort}").answer
      ((registry.after third).matchHost s!"{name}:{port}").answer := by
  have sound := Configuration.build_sound valid built
  have plainAnswer (lookups : List Lookup) (rawHost : String) :
      ((registry.after lookups).matchHost rawHost).answer = registry.lookUp rawHost := by
    obtain ⟨later, same⟩ := sound.after lookups
    rw [later.matchHost_answer, Registry.lookUp_eq_of_forgotten_eq same]
  have named : RequestHost.named name anyPort = .ok request :=
    (RequestHost.parse_of_no_colon plain).symm.trans parsed
  have zero : registry.lookUp s!"{name}:{anyPort}" = registry.lookUp name := by
    have same : RequestHost.parse s!"{name}:{anyPort}" = RequestHost.parse name :=
      (RequestHost.parse_portText plain (by decide)).trans (named.trans parsed.symm)
    simp only [Registry.lookUp, same]
  rw [plainAnswer, plainAnswer, plainAnswer, zero,
    Registry.lookUp_portText sound.host positive fits unbound plain parsed]
  cases answered : registry.lookUp name with
  | error cause => exact .refused cause
  | ok answer =>
    cases answer with
    | none => exact .missed
    | some found =>
      obtain ⟨_, chosen⟩ :=
        registry.exists_matchHost_of_lookUp sound.host parsed (RequestHost.named_port named) answered
      obtain ⟨same, member, unported, matched, entry, rooted⟩ := HostingTree.matchHost_anyPort chosen
      exact .resolved found member same unported matched entry rooted

/-- Two groups with the same host, of which only the second one has a port
entry of its own, and a default host with an entry for any port. -/
def twoPortSite : Configuration where
  hosts := { defaultHostName := some "localhost", maxCachedHosts := 2 }
  hostGroups := [
    { name := "dev", hosts := [.node { name := "localhost" } (some (.node {} [])) [] []] },
    { name := "test", hosts := [.node { name := "localhost" } (some (.node {} []))
        [⟨8080, some (.node {} [])⟩, ⟨9090, none⟩] []] }]

theorem twoPortSite_lookups_agree :
    twoPortSite.isValid ∧ ∃ registry, twoPortSite.build .lenient 1 = .ok registry ∧
      ':' ∉ " Shop.example ".toList ∧
      RequestHost.parse " Shop.example " = .ok ⟨"shop.example", anyPort⟩ ∧
      (∀ host ∈ registry.tree.hosts, host.portMount? 81 = none) ∧
      registry.tree.AnyPortAnswers 81
        ((registry.after [.host "localhost:8080"]).matchHost " Shop.example ").answer
        ((registry.after [.host " Shop.example "]).matchHost " Shop.example :0").answer
        ((registry.after []).matchHost " Shop.example :81").answer := by
  have valid : twoPortSite.isValid := by decide +kernel
  have plain : ':' ∉ " Shop.example ".toList := by decide +kernel
  have parsed : RequestHost.parse " Shop.example " = .ok ⟨"shop.example", anyPort⟩ := by decide +kernel
  have free : (twoPortSite.build .lenient 1).toOption.map (fun registry =>
      decide (∀ host ∈ registry.tree.hosts, host.portMount? 81 = none)) = some true := by decide +kernel
  obtain ⟨registry, built, viewed⟩ := Configuration.build_of_view free
  have unbound := of_decide_eq_true viewed
  exact ⟨valid, registry, built, plain, parsed, unbound,
    Configuration.lookups_agree_on_unbound_port valid built plain parsed (by decide) (by decide) unbound
      [.host "localhost:8080"] [.host " Shop.example "] []⟩

end SiteRouting
