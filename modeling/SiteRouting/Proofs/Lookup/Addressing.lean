import Mathlib
import SiteRouting.Proofs.Build.NodeNames
import SiteRouting.Proofs.HostName
import SiteRouting.Proofs.Lookup.LongestSuffix
import SiteRouting.Proofs.Text.Casing
import SiteRouting.Proofs.Text.Trimming

namespace SiteRouting

open Text

/-- A text that is the full name of a host: it is lowercase, and its last
character is not a dot. A request for it loses nothing but the blanks at its
ends and what follows a colon. -/
structure IsFullName (name : String) : Prop where
  lowered : ∀ c ∈ name.toList, isLowered c
  last : ∃ front c, name.toList = front ++ [c] ∧ c ≠ '.'

section Text

variable {name above : String}

theorem stripChars_sublist (p : Char → Bool) (cs : List Char) : (stripChars p cs).Sublist cs := by
  rw [stripChars, ← List.reverse_sublist, List.reverse_reverse]
  exact (List.dropWhile_sublist p).trans (List.reverse_sublist.mpr (List.dropWhile_sublist p))

theorem length_trim_lt (trimmed : trim name ≠ name) : (trim name).toList.length < name.toList.length := by
  have sublist := stripChars_sublist isBlank name.toList
  rw [toList_trim]
  refine lt_of_le_of_ne sublist.length_le fun same => trimmed ?_
  rw [trim, sublist.eq_of_length same, String.ofList_toList]

theorem length_dropTrailingDot_le (s : String) : (dropTrailingDot s).toList.length ≤ s.toList.length := by
  by_cases dotted : ∃ rest, s.toList.reverse = '.' :: rest
  · obtain ⟨rest, shape⟩ := dotted
    have whole := congrArg List.length shape
    rw [dropTrailingDot_of_reverse shape, List.length_reverse]
    rw [List.length_reverse, List.length_cons] at whole
    omega
  · rw [dropTrailingDot_of_not_dot fun rest shape => dotted ⟨rest, shape⟩]

theorem isFullName_of_label {label : String} (some_char : label ≠ "") (undotted : '.' ∉ label.toList) :
    IsFullName (lowercase label) := by
  refine ⟨fun c member => isLowered_of_mem_lowercase member, ?_⟩
  have nonempty : (lowercase label).toList ≠ [] := by
    obtain ⟨c, rest, shape⟩ := List.exists_cons_of_ne_nil
      (fun none => some_char (String.toList_inj.mp none) : label.toList ≠ [])
    obtain ⟨form, split, nonempty, _⟩ := lowercaseChars_cons [] rest c
    rw [lowercase, String.toList_ofList, shape, split]
    exact List.append_ne_nil_of_left_ne_nil nonempty _
  refine ⟨_, _, (List.dropLast_append_getLast nonempty).symm, ?_⟩
  rintro dot
  exact lowercase_undotted undotted (dot ▸ List.getLast_mem nonempty)

theorem IsFullName.dotted (own : IsFullName name) (behind : IsFullName above) :
    IsFullName s!"{name}.{above}" := by
  obtain ⟨front, c, ends, other⟩ := behind.last
  refine ⟨?_, name.toList ++ '.' :: front, c, ?_, other⟩
  · intro d member
    rw [toList_dotted, List.mem_append, List.mem_cons] at member
    rcases member with inName | rfl | inAbove
    · exact own.lowered d inName
    · decide
    · exact behind.lowered d inAbove
  · rw [toList_dotted, ends]
    simp

theorem IsFullName.dropTrailingDot_eq (full : IsFullName name) : dropTrailingDot name = name := by
  obtain ⟨front, c, ends, other⟩ := full.last
  refine dropTrailingDot_of_not_dot fun rest shape => other ?_
  rw [ends, List.reverse_append, List.reverse_singleton, List.singleton_append, List.cons.injEq] at shape
  exact shape.1

theorem IsFullName.ne_empty (full : IsFullName name) : name ≠ "" := by
  rintro rfl
  obtain ⟨front, c, ends, _⟩ := full.last
  simp at ends

theorem splitFirst?_eq_some {sep : Char} {s head tail : String}
    (split : splitFirst? sep s = some (head, tail)) :
    s.toList = head.toList ++ sep :: tail.toList ∧ sep ∉ head.toList := by
  obtain ⟨⟨front, back⟩, cut, same⟩ := Option.map_eq_some_iff.mp split
  obtain ⟨rfl, rfl⟩ := Prod.mk.inj same
  simpa only [String.toList_ofList] using cutFirst?_eq_some_iff.mp cut

theorem RequestHost.named_eq_ok {name : String} {port : Port} {request : RequestHost}
    (named : RequestHost.named name port = .ok request) : request.name = normalizeHostName name := by
  simp only [RequestHost.named] at named
  split at named
  · cases named
  · rw [← Except.ok.inj named]

/-- A request for a full name gets exactly this name, and no port, if the name has
no colon and trimming leaves it alone; otherwise it gets another one, if any. -/
theorem IsFullName.parse_eq_iff (full : IsFullName name) :
    RequestHost.parse name = .ok ⟨name, anyPort⟩ ↔ ':' ∉ name.toList ∧ trim name = name := by
  have kept : lowercase (trim name) = trim name := by
    refine lowercase_eq_self fun c member => full.lowered c ?_
    rw [toList_trim] at member
    exact mem_of_mem_stripChars member
  have normal : normalizeHostName (trim name) = dropTrailingDot (trim name) := by
    rw [normalizeHostName, trim_trim, kept]
  rw [RequestHost.parse]
  cases split : splitFirst? ':' (trim name) with
  | some parts =>
    obtain ⟨head, portText⟩ := parts
    obtain ⟨whole, free⟩ := splitFirst?_eq_some split
    rw [toList_trim] at whole
    have inside : ':' ∈ name.toList := mem_of_mem_stripChars (p := isBlank) (whole ▸ by simp)
    refine iff_of_false ?_ fun uncoloned => uncoloned.1 inside
    -- What stands before the colon has none, and lowercasing makes none.
    dsimp only
    split
    · intro refused
      cases refused
    intro named
    have same : name = normalizeHostName head := RequestHost.named_eq_ok named
    rw [same] at inside
    have lower := mem_of_mem_lowercase (mem_of_mem_dropTrailingDot inside) (by decide)
    rw [toList_trim] at lower
    exact free (mem_of_mem_stripChars lower)
  | none =>
    dsimp only
    constructor
    · intro named
      have same : name = normalizeHostName (trim name) := RequestHost.named_eq_ok named
      have trimmed : trim name = name := by
        by_contra trimmed
        have shorter := length_trim_lt trimmed
        have dropped := length_dropTrailingDot_le (trim name)
        rw [← normal, ← same] at dropped
        omega
      refine ⟨?_, trimmed⟩
      rw [← trimmed]
      exact cutFirst?_eq_none_iff.mp (Option.map_eq_none_iff.mp split)
    · rintro ⟨_, trimmed⟩
      rw [RequestHost.named, normal, trimmed, full.dropTrailingDot_eq]
      simp [full.ne_empty]

end Text

section Registry

variable {config : Configuration} {policy : BuildPolicy} {generation : Nat} {registry : Registry}

/-- In the tree of a valid configuration the full name of every host is
lowercase and ends in no dot. -/
theorem Configuration.build_isFullName (valid : config.isValid)
    (built : config.build policy generation = .ok registry) :
    ∀ host ∈ registry.tree.hosts, IsFullName host.hostName := by
  obtain ⟨wellFormed, namesHost⟩ := Configuration.build_namesHost built
  refine wellFormed.toShaped.hostName_induction ?_ fun _ _ => IsFullName.dotted
  intro host member
  obtain ⟨node, labels, label, declared, labelled, isLabel, isName⟩ := namesHost host member
  have named := (declared.isNodeName valid).2.ne_empty
  rw [isName]
  exact isFullName_of_label (nodeLabels_ne_empty labelled isLabel named) (nodeLabels_undotted labelled isLabel)

/-- Where all names of hosts are as the default host's name has to be,
so are their full names. -/
theorem Configuration.build_isHostText (built : config.build policy generation = .ok registry)
    (hostNames : ∀ group node, config.DeclaresHost group node → isHostName node.settings.name) :
    ∀ host ∈ registry.tree.hosts, IsHostText host.hostName := by
  obtain ⟨wellFormed, namesHost⟩ := Configuration.build_namesHost built
  refine wellFormed.toShaped.hostName_induction ?_ ?_
  · intro host member
    obtain ⟨node, labels, label, declared, labelled, isLabel, isName⟩ := namesHost host member
    have text := isHostText_of_isHostName (hostNames _ node declared)
    rw [isName]
    exact IsHostText.lowercased fun c inside => text c (mem_of_mem_nodeLabels labelled isLabel inside)
  · intro name above own behind c member
    rw [toList_dotted, List.mem_append, List.mem_cons] at member
    rcases member with inName | rfl | inAbove
    · exact own c inName
    · decide
    · exact behind c inAbove

/-- Every host of a valid configuration is found in its own group by the labels
of its own name. A request for that name asks for it and for no port exactly if
the name has no colon, and no blank at its ends. No host has either if the
names of hosts are as validation wants the default host's name to be. -/
theorem Configuration.build_addresses (valid : config.isValid)
    (built : config.build policy generation = .ok registry) {host : VirtualHost}
    (member : host ∈ registry.tree.hosts) :
    (∃ group ∈ registry.tree.groups, group.name = host.group) ∧
      (∀ group ∈ registry.tree.groups, group.name = host.group →
        registry.tree.findHost group (hostLabels host.hostName) = some host) ∧
      (RequestHost.parse host.hostName = .ok ⟨host.hostName, anyPort⟩ ↔
        ':' ∉ host.hostName.toList ∧ Text.trim host.hostName = host.hostName) ∧
      ((∀ group node, config.DeclaresHost group node → isHostName node.settings.name) →
        RequestHost.parse host.hostName = .ok ⟨host.hostName, anyPort⟩) := by
  obtain ⟨wellFormed, named⟩ := Configuration.build_named built
  have parsed := (Configuration.build_isFullName valid built host member).parse_eq_iff
  refine ⟨?_, ?_, parsed, ?_⟩
  · obtain ⟨i, group, held, sameName⟩ := (wellFormed.hosts host.id host (wellFormed.host?_id member)).grouped
    exact ⟨group, Array.mem_of_getElem? held, sameName⟩
  · intro group declared sameName
    exact named.findHost_hostLabels wellFormed declared member sameName.symm
  · intro hostNames
    have text := Configuration.build_isHostText built hostNames host member
    exact parsed.mpr ⟨fun colon => (text ':' colon).1 rfl, text.trim_eq⟩

/-- A host like any other below a host on top, and two that validation
accepts although no request for their names asks for them: one is written
with a port, the other one begins with a blank. -/
def oddHostsSite : Configuration where
  hostGroups := [{
    name := "prod"
    hosts := [
      .node { name := "com" } none [] [.node { name := "Example" } none [] []],
      .node { name := "localhost:8080" } (some (.node { identifier := some "home" } [])) [] [],
      .node { name := " intranet" } none [] []] }]

/-- Validation accepts a host that is named with a port and one whose name begins
with a blank, and a request for the name of either asks for another host. -/
theorem oddHostsSite_unaddressed :
    oddHostsSite.isValid ∧ ∃ registry coloned blank, oddHostsSite.build .lenient 1 = .ok registry ∧
      coloned ∈ registry.tree.hosts ∧ blank ∈ registry.tree.hosts ∧
      coloned.hostName = "localhost:8080" ∧ blank.hostName = " intranet" ∧
      RequestHost.parse coloned.hostName = .ok ⟨"localhost", 8080⟩ ∧
      RequestHost.parse coloned.hostName ≠ .ok ⟨coloned.hostName, anyPort⟩ ∧
      registry.lookUp coloned.hostName = .ok none ∧
      RequestHost.parse blank.hostName = .ok ⟨"intranet", anyPort⟩ ∧
      RequestHost.parse blank.hostName ≠ .ok ⟨blank.hostName, anyPort⟩ := by
  have shown : (oddHostsSite.build .lenient 1).toOption.map (fun registry =>
      ((registry.tree.hosts[2]?).map (·.hostName), (registry.tree.hosts[3]?).map (·.hostName),
        (registry.lookUp "localhost:8080").toOption)) =
      some (some "localhost:8080", some " intranet", some none) := by decide +kernel
  obtain ⟨registry, built, viewed⟩ := Configuration.build_of_view shown
  obtain ⟨third, viewed⟩ := Prod.mk.inj viewed
  obtain ⟨fourth, missed⟩ := Prod.mk.inj viewed
  obtain ⟨coloned, isColoned, colonedName⟩ := Option.map_eq_some_iff.mp third
  obtain ⟨blank, isBlank, blankName⟩ := Option.map_eq_some_iff.mp fourth
  have cut : RequestHost.parse "localhost:8080" = .ok ⟨"localhost", 8080⟩ := by decide +kernel
  have trimmed : RequestHost.parse " intranet" = .ok ⟨"intranet", anyPort⟩ := by decide +kernel
  have valid : oddHostsSite.isValid := by decide +kernel
  refine ⟨valid, registry, coloned, blank, built, Array.mem_of_getElem? isColoned,
    Array.mem_of_getElem? isBlank, colonedName, blankName, ?_⟩
  rw [colonedName, blankName, cut, trimmed]
  refine ⟨rfl, by decide, ?_, rfl, by decide⟩
  cases lookedUp : registry.lookUp "localhost:8080" with
  | error cause =>
    rw [lookedUp] at missed
    cases missed
  | ok answer =>
    rw [lookedUp] at missed
    exact congrArg Except.ok (Option.some.inj missed)

theorem oddHostsSite_addressed :
    oddHostsSite.isValid ∧ ∃ registry host, oddHostsSite.build .lenient 1 = .ok registry ∧
      host ∈ registry.tree.hosts ∧ host.hostName = "example.com" ∧
      (∀ group ∈ registry.tree.groups, group.name = host.group →
        registry.tree.findHost group (hostLabels host.hostName) = some host) ∧
      RequestHost.parse host.hostName = .ok ⟨host.hostName, anyPort⟩ := by
  have shown : (oddHostsSite.build .lenient 1).toOption.map (fun registry =>
      (registry.tree.hosts[1]?).map (·.hostName)) = some (some "example.com") := by decide +kernel
  have valid : oddHostsSite.isValid := by decide +kernel
  obtain ⟨registry, built, viewed⟩ := Configuration.build_of_view shown
  obtain ⟨host, held, isName⟩ := Option.map_eq_some_iff.mp viewed
  have member := Array.mem_of_getElem? held
  obtain ⟨_, found, parsed, _⟩ := Configuration.build_addresses valid built member
  refine ⟨valid, registry, host, built, member, isName, found, parsed.mpr ?_⟩
  rw [isName]
  decide +kernel

end Registry

end SiteRouting
