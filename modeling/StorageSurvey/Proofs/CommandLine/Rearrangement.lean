import StorageSurvey.Program.Run
import StorageSurvey.Proofs.CommandLine.Environment
import StorageSurvey.Proofs.CommandLine.Places
import StorageSurvey.Proofs.CommandLine.Scanning

/-!
# Options anywhere

The options of the program are known in all places of a command line.  A line that names a command
and gives no option twice asks for the same wherever its options stand, and however they are
spelled: before the group, between the group and the command, or among the identifiers, which keep
their order.  An option that is given in one place is not overridden by the environment or a default
in another, and the environment can be read in all places iff it can be read at all.

What a line asks for is said of its items alone (`Asks`), so that their order is lost on the way
(`read_eq_ok_iff_asks`, `Asks.of_perm`).
-/

namespace StorageSurvey.CommandLine

open StorageSurvey.Commands StorageSurvey.Report

variable {interface : Interface} {environment : Environment}

/-! ## The end of a place -/

/-- Whether a place with some items ends with what is given and what the environment adds to it. -/
def Ends (environment : Environment) (items : List Item) (given : Given) (added : Options) : Prop :=
  Given.nothing.takeAll items = .ok given ∧ given.options.fromEnvironment environment = .ok added

theorem exists_finish_iff_ends (hoptions : interface.hasOptions = true)
    {result : Except Stop Reading} {items : List Item}
    (hresult : result >>= Reading.settled = Given.nothing.takeAll items) {given : Given}
    {added : Options} :
    (∃ reading, result = .ok reading ∧
      reading.finish interface environment = .ok (given, added)) ↔
      Ends environment items given added := by
  have hfinish (reading : Reading) :
      reading.finish interface environment = .ok (given, added) ↔
        reading.settled = .ok given ∧ given.options.fromEnvironment environment = .ok added := by
    unfold Reading.finish Reading.settled
    rw [map_eq_pure_bind]
    simp only [hoptions, if_true, bind_eq_ok_iff, pure_eq_ok_iff, Prod.mk.injEq]
    constructor
    · rintro ⟨last, hsettle, _, hadded, rfl, rfl⟩
      exact ⟨⟨last, hsettle, rfl⟩, hadded⟩
    · rintro ⟨⟨last, hsettle, rfl⟩, hadded⟩
      exact ⟨last, hsettle, added, hadded, rfl, rfl⟩
  simp only [Ends, hfinish, ← hresult, bind_eq_ok_iff, ← exists_and_right, and_assoc]

/-- If the environment can be read where nothing is given, a place ends well. -/
theorem exists_ends {items : List Item} (hreadable : ∀ item ∈ items, item.IsReadable)
    (honce : (items.filterMap Item.switch?).Nodup) {added : Options}
    (hadded : Options.none.fromEnvironment environment = .ok added) :
    ∃ rest, Ends environment items (Given.ofItems items) rest ∧
      (Given.ofItems items).options.orElse rest = (Given.ofItems items).options.orElse added := by
  obtain ⟨rest, hrest, hsame⟩ :=
    Options.exists_fromEnvironment hadded (Given.ofItems items).options
  have htaken : Given.nothing.takeAll items = .ok (Given.ofItems items) :=
    Given.takeAll_nothing_eq_ok_iff.mpr ⟨hreadable, honce, rfl⟩
  exact ⟨rest, ⟨htaken, hrest⟩, hsame⟩

/-! ## Lines -/

/-- The lines that name a command, and the items that they spell, in their order. -/
inductive Arranged (interface : Interface) (command : Command) : List String → List Item → Prop
  | line {group name : String} {first second third : List String}
      {outer middle inner : List Item} (hgroup : group ∈ interface.registry.groups)
      (hcommand : interface.registry.find? group name = some command)
      (hfirst : Spells interface.groupsPlace first outer)
      (hsecond : Spells (interface.groupPlace group) second middle)
      (hthird : Spells (interface.commandPlace command) third inner) :
      Arranged interface command (first ++ group :: (second ++ name :: third))
        (outer ++ (middle ++ inner))

/-- What is asked for by a command with some items: an option has the value that it is given, or
else that of the environment, or else by default. -/
structure Asks (environment : Environment) (command : Command) (items : List Item)
    (request : Request) : Prop where
  readable : ∀ item ∈ items, item.IsReadable
  settings_eq : ∃ added, Options.none.fromEnvironment environment = .ok added ∧
    request.settings = ((Given.ofItems items).options.orElse added).settings
  command_eq : request.command = command
  identifiers_eq : request.identifiers = items.filterMap Item.identifier?
  showLabels_iff : request.showLabels = true ↔ .flag .showLabels ∈ items

section

variable {command : Command} {group name : String} {first second third : List String}
  {outer middle inner : List Item} {request : Request}

/-- A line leads to a request iff each of its three places ends well. -/
theorem read_eq_ok_iff (hoptions : interface.hasOptions = true)
    (hnames : HasPlainNames interface.registry) (hgroup : group ∈ interface.registry.groups)
    (hcommand : interface.registry.find? group name = some command)
    (hfirst : Spells interface.groupsPlace first outer)
    (hsecond : Spells (interface.groupPlace group) second middle)
    (hthird : Spells (interface.commandPlace command) third inner) :
    Request.read interface environment (first ++ group :: (second ++ name :: third)) =
        .ok request ↔
      ∃ groups commands arguments added, Ends environment outer groups added ∧
        (∃ rest, Ends environment middle commands rest) ∧
        (∃ rest, Ends environment inner arguments rest) ∧
        ⟨(arguments.options.orElse
            (commands.options.orElse (groups.options.orElse added))).settings,
          command, arguments.identifiers, arguments.showLabels⟩ = request := by
  obtain ⟨groups, hgroups, hscanGroups⟩ := Reading.exists_scan_of_below
    (Interface.isRegular_groupsPlace hnames) hfirst (Interface.below?_groupsPlace hgroup)
    (second ++ name :: third)
  have hbelow : (interface.groupPlace group).below? name = some command := hcommand
  obtain ⟨commands, hcommands, hscanCommands⟩ := Reading.exists_scan_of_below
    (Interface.isRegular_groupPlace hnames group) hsecond hbelow third
  obtain ⟨arguments, harguments, hscanArguments⟩ := Reading.exists_scan_to_end
    (Interface.isRegular_commandPlace command) hthird
  unfold Request.read
  simp only [hscanGroups, hscanCommands, hscanArguments, map_eq_pure_bind, bind_assoc, pure_bind]
  simp only [bind_eq_ok_iff, pure_eq_ok_iff, ← exists_finish_iff_ends hoptions hgroups,
    ← exists_finish_iff_ends hoptions hcommands, ← exists_finish_iff_ends hoptions harguments]
  constructor
  · rintro ⟨r₁, h₁, r₂, h₂, r₃, h₃, ⟨i, ia⟩, hi, ⟨m, ma⟩, hm, ⟨o, oa⟩, ho, hrequest⟩
    exact ⟨o, m, i, oa, ⟨r₁, h₁, ho⟩, ⟨ma, r₂, h₂, hm⟩, ⟨ia, r₃, h₃, hi⟩, hrequest⟩
  · rintro ⟨o, m, i, oa, ⟨r₁, h₁, ho⟩, ⟨ma, r₂, h₂, hm⟩, ⟨ia, r₃, h₃, hi⟩, hrequest⟩
    exact ⟨r₁, h₁, r₂, h₂, r₃, h₃, ⟨i, ia⟩, hi, ⟨m, ma⟩, hm, ⟨o, oa⟩, ho, hrequest⟩

/-- The options of all places are those of the innermost first. -/
theorem options_ofItems_places (added : Options) :
    (Given.ofItems (outer ++ (middle ++ inner))).options.orElse added =
      (Given.ofItems inner).options.orElse ((Given.ofItems middle).options.orElse
        ((Given.ofItems outer).options.orElse added)) := by
  rw [Given.ofItems_append, Given.ofItems_append]
  simp only [Given.join, Options.orElse_assoc]

/-- The identifiers are those of the innermost place. -/
theorem filterMap_identifier?_places (houter : AreProgramOptions outer)
    (hmiddle : AreProgramOptions middle) :
    (outer ++ (middle ++ inner)).filterMap Item.identifier? =
      (Given.ofItems inner).identifiers := by
  rw [List.filterMap_append, List.filterMap_append, houter.1, hmiddle.1,
    Given.identifiers_ofItems]
  rfl

theorem showLabels_mem_places_iff (houter : AreProgramOptions outer)
    (hmiddle : AreProgramOptions middle) :
    .flag .showLabels ∈ outer ++ (middle ++ inner) ↔
      (Given.ofItems inner).showLabels = true := by
  rw [List.mem_append, List.mem_append, Given.showLabels_ofItems]
  simp only [houter.2, hmiddle.2, false_or]

end

/-- A line that gives no option twice asks for its command with its items. -/
theorem read_eq_ok_iff_asks (hoptions : interface.hasOptions = true)
    (hnames : HasPlainNames interface.registry) {command : Command} {words : List String}
    {items : List Item} (h : Arranged interface command words items)
    (honce : (items.filterMap Item.switch?).Nodup) (environment : Environment)
    (request : Request) :
    Request.read interface environment words = .ok request ↔
      Asks environment command items request := by
  obtain @⟨group, name, first, second, third, outer, middle, inner, hgroup, hcommand, hfirst,
    hsecond, hthird⟩ := h
  have houter := areProgramOptions_groups hfirst
  have hmiddle := areProgramOptions_group hsecond
  have hpart {part : List Item} (hsub : part.Sublist (outer ++ (middle ++ inner))) :
      (part.filterMap Item.switch?).Nodup := honce.sublist (hsub.filterMap Item.switch?)
  rw [read_eq_ok_iff hoptions hnames hgroup hcommand hfirst hsecond hthird]
  constructor
  · rintro ⟨_, _, _, added, ⟨hgroups, houtermost⟩, ⟨_, hcommands, -⟩,
      ⟨_, harguments, hinnermost⟩, rfl⟩
    obtain ⟨hreadOuter, -, rfl⟩ := Given.takeAll_nothing_eq_ok_iff.mp hgroups
    obtain ⟨hreadMiddle, -, rfl⟩ := Given.takeAll_nothing_eq_ok_iff.mp hcommands
    obtain ⟨hreadInner, -, rfl⟩ := Given.takeAll_nothing_eq_ok_iff.mp harguments
    -- Each variable is read in the outermost place or in the innermost.
    have hdisjoint := Given.disjoint_of_nodup
      (hpart ((List.sublist_append_right middle inner).append_left outer)) hreadOuter hreadInner
    obtain ⟨all, hall⟩ := Options.exists_fromEnvironment_none hdisjoint houtermost hinnermost
    obtain ⟨_, hrest, hsame⟩ := Options.exists_fromEnvironment hall (Given.ofItems outer).options
    obtain rfl := Except.ok.inj (houtermost.symm.trans hrest)
    exact {
      readable := List.forall_mem_append.mpr
        ⟨hreadOuter, List.forall_mem_append.mpr ⟨hreadMiddle, hreadInner⟩⟩
      settings_eq := ⟨all, hall, by rw [options_ofItems_places, hsame]⟩
      command_eq := rfl
      identifiers_eq := (filterMap_identifier?_places houter hmiddle).symm
      showLabels_iff := (showLabels_mem_places_iff houter hmiddle).symm }
  · rintro ⟨hreadable, ⟨all, hall, hsettings⟩, rfl, hidentifiers, hlabels⟩
    obtain ⟨hreadOuter, hreadRest⟩ := List.forall_mem_append.mp hreadable
    obtain ⟨hreadMiddle, hreadInner⟩ := List.forall_mem_append.mp hreadRest
    have hrest := List.sublist_append_right outer (middle ++ inner)
    obtain ⟨added, houtermost, hsame⟩ :=
      exists_ends hreadOuter (hpart (List.sublist_append_left _ _)) hall
    obtain ⟨addedMiddle, hbetween, -⟩ :=
      exists_ends hreadMiddle (hpart ((List.sublist_append_left _ _).trans hrest)) hall
    obtain ⟨addedInner, hinnermost, -⟩ :=
      exists_ends hreadInner (hpart ((List.sublist_append_right _ _).trans hrest)) hall
    refine ⟨_, _, _, added, houtermost, ⟨addedMiddle, hbetween⟩, ⟨addedInner, hinnermost⟩, ?_⟩
    have hshown : (Given.ofItems inner).showLabels = request.showLabels :=
      Bool.eq_iff_iff.mpr ((showLabels_mem_places_iff houter hmiddle).symm.trans hlabels.symm)
    rw [hsame, ← options_ofItems_places, ← hsettings,
      ← filterMap_identifier?_places houter hmiddle, ← hidentifiers, hshown]

/-- What is asked for does not depend on the order of options. -/
theorem Asks.of_perm {command : Command} {items others : List Item} {request : Request}
    (h : Asks environment command items request) (hperm : items.Perm others)
    (honce : (items.filterMap Item.switch?).Nodup)
    (hidentifiers : items.filterMap Item.identifier? = others.filterMap Item.identifier?) :
    Asks environment command others request where
  readable item hitem := h.readable item (hperm.mem_iff.mpr hitem)
  settings_eq := by
    rw [← Given.options_ofItems_of_perm hperm honce]
    exact h.settings_eq
  command_eq := h.command_eq
  identifiers_eq := h.identifiers_eq.trans hidentifiers
  showLabels_iff := h.showLabels_iff.trans hperm.mem_iff

/-! ## The program -/

theorem hasPlainNames_builtin : HasPlainNames Registry.builtin := by
  constructor <;> decide

/-- The options of the program can stand anywhere in a command line.  Two lines that name one
command and give the same options, none of them twice, and the same identifiers in the same order,
lead to the same request, or neither of them leads to one.  The options have the values that they
are given; the environment and the defaults only add those that are given nowhere.  A run of one
line is then a run of the other, whether the settings name a source or are refused. -/
theorem request_of_rearranged {command : Command} {words moved : List String}
    {items others : List Item} (hwords : Arranged Program.interface command words items)
    (hmoved : Arranged Program.interface command moved others)
    (honce : (items.filterMap Item.switch?).Nodup) (hperm : items.Perm others)
    (hidentifiers : items.filterMap Item.identifier? = others.filterMap Item.identifier?)
    (environment : Environment) (request : Request) :
    (Request.read Program.interface environment words = .ok request ↔
      Asks environment command items request) ∧
    (Request.read Program.interface environment moved = .ok request ↔
      Request.read Program.interface environment words = .ok request) ∧
    (Request.read Program.interface environment words = .ok request →
      ∀ {m : Type → Type} [Monad m] (readFile : String → m Sources.FileContents)
        (surroundings : Sources.Surroundings),
        Program.run readFile environment moved surroundings =
          Program.run readFile environment words surroundings) := by
  have honceMoved := (hperm.filterMap Item.switch?).nodup_iff.mp honce
  have hread := read_eq_ok_iff_asks rfl hasPlainNames_builtin hwords honce environment request
  have hreadMoved :=
    read_eq_ok_iff_asks rfl hasPlainNames_builtin hmoved honceMoved environment request
  have hsame : Request.read Program.interface environment moved = .ok request ↔
      Request.read Program.interface environment words = .ok request := by
    rw [hread, hreadMoved]
    exact ⟨fun h => h.of_perm hperm.symm honceMoved hidentifiers.symm,
      fun h => h.of_perm hperm honce hidentifiers⟩
  refine ⟨hread, hsame, ?_⟩
  intro hrequest m _ readFile surroundings
  unfold Program.run
  rw [hrequest, hsame.mpr hrequest]

/-- The nodes that are asked for below, with one of the options from the environment. -/
def workersRequest : Request where
  settings := ⟨"s.json", .json, false, "prod", true, 5, "warn", false⟩
  command := ⟨"get", "nodes", ["node"], .identifiersAndLabels, getNodes⟩
  identifiers := ["worker-1", "worker-2"]
  showLabels := true

/-- The options stand in all three places, or all of them after the command. -/
theorem workersRequest_rearranged :
    let environment : Environment := fun name =>
      if name = "STORCTL_NAMESPACE" then some "prod"
      else if name = "STORCTL_SNAPSHOT" then some "other.yaml" else none
    Request.read Program.interface environment
        ["-Ao", "json", "get", "--timeout-secs=5", "node", "worker-1", "-s", "s.json", "worker-2",
          "--show-labels"] = .ok workersRequest ∧
      Request.read Program.interface environment
        ["get", "nodes", "--snapshot", "s.json", "--show-labels", "worker-1", "-ojson",
          "--all-namespaces", "worker-2", "--timeout-secs", "5"] = .ok workersRequest := by
  intro environment
  let command := workersRequest.command
  let items : List Item :=
    [.flag .allNamespaces, .valued .output "json"] ++ ([.valued .timeoutSeconds "5"] ++
      [.identifier "worker-1", .valued .snapshot "s.json", .identifier "worker-2",
        .flag .showLabels])
  have hwords : Arranged Program.interface command
      (["-Ao", "json"] ++ "get" :: (["--timeout-secs=5"] ++ "node" ::
        ["worker-1", "-s", "s.json", "worker-2", "--show-labels"])) items := by
    refine .line (by decide) rfl ?_ ?_ ?_
    · exact .value (.letters rfl (.more rfl (.awaits rfl))) (by decide) .nil
    · exact .word (.equals "timeout-secs" rfl rfl) .nil
    · refine .identifier rfl (by decide) (.value (.letters rfl (.awaits rfl)) (by decide) ?_)
      exact .identifier rfl (by decide) (.word (.flag "show-labels" rfl rfl) .nil)
  have hmoved : Arranged Program.interface command
      ([] ++ "get" :: ([] ++ "nodes" :: ["--snapshot", "s.json", "--show-labels", "worker-1",
        "-ojson", "--all-namespaces", "worker-2", "--timeout-secs", "5"]))
      ([] ++ ([] ++ [.valued .snapshot "s.json", .flag .showLabels, .identifier "worker-1",
        .valued .output "json", .flag .allNamespaces, .identifier "worker-2",
        .valued .timeoutSeconds "5"])) := by
    refine .line (by decide) rfl .nil .nil (.value (.awaits "snapshot" rfl rfl) (by decide) ?_)
    refine .word (.flag "show-labels" rfl rfl) (.identifier rfl (by decide) ?_)
    refine .word (.letters rfl (.joined rfl rfl (by decide))) ?_
    refine .word (.flag "all-namespaces" rfl rfl) (.identifier rfl (by decide) ?_)
    exact .value (.awaits "timeout-secs" rfl rfl) (by decide) .nil
  obtain ⟨hread, hsame, -⟩ := request_of_rearranged hwords hmoved (by decide) (by decide) rfl
    environment workersRequest
  have htaken : Given.nothing.takeAll items = .ok (Given.ofItems items) := rfl
  have hadded : Options.none.fromEnvironment environment =
      .ok { Options.none with namespaceName := some "prod", snapshot := some "other.yaml" } := rfl
  have hasks : Asks environment command items workersRequest := {
    readable := (Given.takeAll_nothing_eq_ok_iff.mp htaken).1
    settings_eq := ⟨_, hadded, rfl⟩
    command_eq := rfl
    identifiers_eq := rfl
    showLabels_iff := by decide }
  exact ⟨hread.mpr hasks, hsame.mpr (hread.mpr hasks)⟩

end StorageSurvey.CommandLine
