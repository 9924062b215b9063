import StorageSurvey.Proofs.CommandLine.Items

/-!
# The environment in several places

The environment adds the options that are not given, and it is looked at anew in each place of a
command line.  If no option is given in two places, each of its variables is read in one of them at
least; so the environment can be read in all places iff it can be read where nothing is given.  What
it then adds to the options of a place is what it adds to nothing, but for those given there.
-/

namespace StorageSurvey.CommandLine

open StorageSurvey.Report

/-! ## One variable -/

section

variable {α : Type} {setting : Option String} {read : String → Except Stop α}

/-- A variable that can be read adds the same to what is given, as far as it counts. -/
theorem exists_fallback_of_none {added : Option α} (h : fallback none setting read = .ok added)
    (given : Option α) :
    ∃ rest, fallback given setting read = .ok rest ∧ given.or rest = given.or added := by
  cases given with
  | none => exact ⟨added, h, rfl⟩
  | some _ => exact ⟨none, rfl, rfl⟩

/-- A variable that can be read in two places can be read, if the option is not given in both. -/
theorem exists_fallback_none {first second rest other : Option α}
    (hdisjoint : first.isSome = true → second.isSome = false)
    (hfirst : fallback first setting read = .ok rest)
    (hsecond : fallback second setting read = .ok other) :
    ∃ added, fallback none setting read = .ok added := by
  cases first with
  | none => exact ⟨rest, hfirst⟩
  | some _ =>
      cases second with
      | none => exact ⟨other, hsecond⟩
      | some _ => cases hdisjoint rfl

end

/-! ## All variables -/

namespace Options

variable {given added : Options} {environment : Environment}

theorem fromEnvironment_eq_ok_iff :
    given.fromEnvironment environment = .ok added ↔
      fallback given.snapshot (environment "STORCTL_SNAPSHOT") readPath = .ok added.snapshot ∧
      fallback given.kube (environment "STORCTL_KUBE") readTruth = .ok added.kube ∧
      fallback given.namespaceName (environment "STORCTL_NAMESPACE") .ok =
        .ok added.namespaceName ∧
      fallback given.timeoutSeconds (environment "STORCTL_TIMEOUT_SECS") readSeconds =
        .ok added.timeoutSeconds ∧
      fallback given.logLevel (environment "LOG_LEVEL") .ok = .ok added.logLevel ∧
      fallback given.logJson (environment "LOG_JSON") readTruth = .ok added.logJson ∧
      added.output = .none ∧ added.allNamespaces = .none := by
  simp only [fromEnvironment, bind_eq_ok_iff, pure_eq_ok_iff]
  constructor
  · rintro ⟨_, hsnapshot, _, hkube, _, hname, _, hseconds, _, hlevel, _, hjson, rfl⟩
    exact ⟨hsnapshot, hkube, hname, hseconds, hlevel, hjson, rfl, rfl⟩
  · rintro ⟨hsnapshot, hkube, hname, hseconds, hlevel, hjson, houtput, hall⟩
    refine ⟨_, hsnapshot, _, hkube, _, hname, _, hseconds, _, hlevel, _, hjson, ?_⟩
    simp only [none, ← houtput, ← hall]

/-- If the environment can be read where nothing is given, it can be read anywhere, and adds the
same to what is given, as far as it counts. -/
theorem exists_fromEnvironment (h : none.fromEnvironment environment = .ok added)
    (given : Options) :
    ∃ rest, given.fromEnvironment environment = .ok rest ∧
      given.orElse rest = given.orElse added := by
  obtain ⟨hsnapshot, hkube, hname, hseconds, hlevel, hjson, houtput, hall⟩ :=
    fromEnvironment_eq_ok_iff.mp h
  obtain ⟨snapshot, hsnapshot, hsnapshots⟩ := exists_fallback_of_none hsnapshot given.snapshot
  obtain ⟨kube, hkube, hkubes⟩ := exists_fallback_of_none hkube given.kube
  obtain ⟨name, hname, hnames⟩ := exists_fallback_of_none hname given.namespaceName
  obtain ⟨seconds, hseconds, hsecondses⟩ := exists_fallback_of_none hseconds given.timeoutSeconds
  obtain ⟨level, hlevel, hlevels⟩ := exists_fallback_of_none hlevel given.logLevel
  obtain ⟨json, hjson, hjsons⟩ := exists_fallback_of_none hjson given.logJson
  refine ⟨⟨snapshot, .none, kube, name, .none, seconds, level, json⟩,
    fromEnvironment_eq_ok_iff.mpr ⟨hsnapshot, hkube, hname, hseconds, hlevel, hjson, rfl, rfl⟩, ?_⟩
  simp only [orElse, Option.orElse_eq_orElse, Option.orElse_eq_or, hsnapshots, hkubes, hnames,
    hsecondses, hlevels, hjsons, houtput, hall]

/-- If the environment can be read in two places in which no option is given twice, it can be read
where nothing is given. -/
theorem exists_fromEnvironment_none {first second rest other : Options}
    (hdisjoint : ∀ switch, first.has switch = true → second.has switch = false)
    (hfirst : first.fromEnvironment environment = .ok rest)
    (hsecond : second.fromEnvironment environment = .ok other) :
    ∃ added, none.fromEnvironment environment = .ok added := by
  obtain ⟨hsnapshot, hkube, hname, hseconds, hlevel, hjson, -⟩ :=
    fromEnvironment_eq_ok_iff.mp hfirst
  obtain ⟨osnapshot, okube, oname, oseconds, olevel, ojson, -⟩ :=
    fromEnvironment_eq_ok_iff.mp hsecond
  obtain ⟨_, hsnapshot⟩ :=
    exists_fallback_none (hdisjoint (.valued .snapshot)) hsnapshot osnapshot
  obtain ⟨_, hkube⟩ := exists_fallback_none (hdisjoint (.flag .kube)) hkube okube
  obtain ⟨_, hname⟩ := exists_fallback_none (hdisjoint (.valued .namespaceName)) hname oname
  obtain ⟨_, hseconds⟩ :=
    exists_fallback_none (hdisjoint (.valued .timeoutSeconds)) hseconds oseconds
  obtain ⟨_, hlevel⟩ := exists_fallback_none (hdisjoint (.valued .logLevel)) hlevel olevel
  obtain ⟨_, hjson⟩ := exists_fallback_none (hdisjoint (.flag .logJson)) hjson ojson
  exact ⟨⟨_, .none, _, _, .none, _, _, _⟩,
    fromEnvironment_eq_ok_iff.mpr ⟨hsnapshot, hkube, hname, hseconds, hlevel, hjson, rfl, rfl⟩⟩

end Options

end StorageSurvey.CommandLine
