import Mathlib.Data.List.Nodup
import Mathlib.Data.List.Pairwise
import StorageSurvey.Commands.Builtin

/-!
# Names in a registry

A registry answers a name with the first command that it finds.  That this is the right one rests on
an invariant, `Registry.Unambiguous`: groups are distinct, commands are in groups that there are,
and two commands of a group share no name.  A registration is accepted exactly if the registry with
it is still unambiguous, and otherwise leaves the registry as it is.  So the invariant holds after
any registrations, whatever they are and however many of them are rejected, and a name of a group is
answered by the one command that has it.
-/

namespace StorageSurvey.Commands

/-- What a registry can be asked to take. -/
inductive Registration
  | group (name : String)
  | command (command : Command)

namespace Registry

/-! ## Registrations -/

/-- Asks a registry to take something. -/
def submit (registry : Registry) : Registration → Registered
  | .group name => registry.addGroup name
  | .command command => registry.register command

/-- The registry after a registration, which it may have rejected. -/
def after (registry : Registry) (registration : Registration) : Registry :=
  (registry.submit registration).registry

/-- The registry after several registrations, one after the other. -/
def afterAll (registry : Registry) (registrations : List Registration) : Registry :=
  registrations.foldl after registry

/-- The registry with something more in it, whether or not it takes that. -/
def extended (registry : Registry) : Registration → Registry
  | .group name => { registry with groups := registry.groups ++ [name] }
  | .command command => { registry with commands := registry.commands ++ [command] }

/-- Two commands do not answer to one name of one group. -/
def Apart (first second : Command) : Prop :=
  first.group = second.group → ∀ name ∈ first.names, name ∉ second.names

/-- Every name of a group stands for one command at most, and the group is there. -/
structure Unambiguous (registry : Registry) : Prop where
  groups : registry.groups.Nodup
  known : ∀ command ∈ registry.commands, command.group ∈ registry.groups
  apart : registry.commands.Pairwise Apart

instance : Std.Symm Apart where
  symm _ _ h hgroup name hsecond hfirst := h hgroup.symm name hfirst hsecond

/-! ## What is found -/

variable {registry : Registry} {group name : String} {command : Command}

theorem answersTo_iff : command.answersTo name = true ↔ name ∈ command.names := by
  rw [Command.answersTo, List.contains_iff_mem]

theorem of_find? (h : registry.find? group name = some command) :
    command ∈ registry.commands ∧ command.group = group ∧ name ∈ command.names := by
  have hanswers := List.find?_some h
  rw [Bool.and_eq_true, beq_iff_eq, answersTo_iff] at hanswers
  exact ⟨List.mem_of_find?_eq_some h, hanswers⟩

theorem find?_eq_none_iff :
    registry.find? group name = none ↔
      ∀ command ∈ registry.commands, command.group = group → name ∉ command.names := by
  simp [find?, answersTo_iff]

/-- In an unambiguous registry, what is found under a name is what has that name. -/
theorem Unambiguous.find?_eq_some_iff (h : registry.Unambiguous) :
    registry.find? group name = some command ↔
      command ∈ registry.commands ∧ command.group = group ∧ name ∈ command.names := by
  refine ⟨of_find?, fun ⟨hmem, hgroup, hname⟩ => ?_⟩
  cases hfound : registry.find? group name with
  | none => exact absurd hname (find?_eq_none_iff.mp hfound command hmem hgroup)
  | some found =>
      obtain ⟨hmem', hgroup', hname'⟩ := of_find? hfound
      by_contra hne
      have hdifferent : found ≠ command := fun heq => hne (congrArg some heq)
      have hapart : Apart found command :=
        h.apart.forall hmem' hmem hdifferent
      exact hapart (hgroup'.trans hgroup.symm) name hname' hname

theorem clash?_eq_none_iff :
    registry.clash? command = none ↔ ∀ existing ∈ registry.commands, Apart existing command := by
  unfold clash? Apart
  simp only [List.find?_eq_none, Option.not_isSome_iff_eq_none, find?_eq_none_iff]
  constructor
  · intro h existing hmem hgroup name hexisting hname
    exact h name hname existing hmem hgroup hexisting
  · intro h name hname existing hmem hgroup hexisting
    exact h existing hmem hgroup name hexisting hname

/-! ## One registration -/

/-- A group leaves the registry unambiguous if it is a new one. -/
theorem Unambiguous.extended_group_iff (h : registry.Unambiguous) :
    (registry.extended (.group name)).Unambiguous ↔ name ∉ registry.groups := by
  constructor
  · intro hextended hmem
    exact List.disjoint_of_nodup_append hextended.groups hmem (List.mem_singleton_self name)
  · intro hfresh
    refine ⟨?_, ?_, h.apart⟩
    · rw [extended, ← List.concat_eq_append]
      exact h.groups.concat hfresh
    · exact fun command hmem => List.mem_append_left _ (h.known command hmem)

/-- A command leaves the registry unambiguous if its group is there and it is apart from all
others. -/
theorem Unambiguous.extended_command_iff (h : registry.Unambiguous) :
    (registry.extended (.command command)).Unambiguous ↔
      command.group ∈ registry.groups ∧
        ∀ existing ∈ registry.commands, Apart existing command := by
  constructor
  · intro hextended
    have hknown := hextended.known command (List.mem_append_right _ List.mem_cons_self)
    have hapart := (List.pairwise_append.mp hextended.apart).2.2
    exact ⟨hknown, fun existing hmem => hapart existing hmem command List.mem_cons_self⟩
  · rintro ⟨hknown, hapart⟩
    refine ⟨h.groups, ?_, ?_⟩
    · intro other hmem
      rcases List.mem_append.mp hmem with hold | hnew
      · exact h.known other hold
      · rwa [List.mem_singleton.mp hnew]
    · refine List.pairwise_append.mpr ⟨h.apart, List.pairwise_singleton .., ?_⟩
      intro existing hmem other hnew
      rw [List.mem_singleton.mp hnew]
      exact hapart existing hmem

/-- What leaves the registry unambiguous is taken. -/
theorem Unambiguous.submit_of_extended (h : registry.Unambiguous) {registration : Registration}
    (hextended : (registry.extended registration).Unambiguous) :
    registry.submit registration = ⟨registry.extended registration, .ok ()⟩ := by
  cases registration with
  | group name =>
      have hfresh := h.extended_group_iff.mp hextended
      simp [submit, addGroup, extended, hfresh]
  | command command =>
      obtain ⟨hknown, hapart⟩ := h.extended_command_iff.mp hextended
      have hclash := clash?_eq_none_iff.mpr hapart
      simp [submit, register, extended, hknown, hclash]

/-- What does not is rejected, and the registry is as it was. -/
theorem Unambiguous.submit_of_not_extended (h : registry.Unambiguous)
    {registration : Registration} (hextended : ¬(registry.extended registration).Unambiguous) :
    ∃ cause, registry.submit registration = ⟨registry, .error (.configuration cause)⟩ := by
  cases registration with
  | group name =>
      rw [h.extended_group_iff, not_not] at hextended
      exact ⟨.groupTwice name, by simp [submit, addGroup, hextended]⟩
  | command command =>
      rw [h.extended_command_iff, ← clash?_eq_none_iff] at hextended
      by_cases hknown : command.group ∈ registry.groups
      · cases hclash : registry.clash? command with
        | none => exact absurd ⟨hknown, hclash⟩ hextended
        | some name =>
            exact ⟨.commandTwice command.group name, by simp [submit, register, hknown, hclash]⟩
      · exact ⟨.unknownGroup command.name command.group, by simp [submit, register, hknown]⟩

/-- A registration is taken exactly if the registry with it is unambiguous; else nothing changes. -/
theorem Unambiguous.submit_cases (h : registry.Unambiguous) (registration : Registration) :
    (registry.extended registration).Unambiguous ∧
        registry.submit registration = ⟨registry.extended registration, .ok ()⟩ ∨
      ¬(registry.extended registration).Unambiguous ∧
        ∃ cause, registry.submit registration = ⟨registry, .error (.configuration cause)⟩ := by
  by_cases hextended : (registry.extended registration).Unambiguous
  · exact .inl ⟨hextended, h.submit_of_extended hextended⟩
  · exact .inr ⟨hextended, h.submit_of_not_extended hextended⟩

/-! ## Any registrations -/

theorem unambiguous_empty : empty.Unambiguous :=
  ⟨.nil, nofun, .nil⟩

/-- Neither an accepted nor a rejected registration breaks the invariant. -/
theorem Unambiguous.after (h : registry.Unambiguous) (registration : Registration) :
    (registry.after registration).Unambiguous := by
  rcases h.submit_cases registration with ⟨hextended, htaken⟩ | ⟨-, cause, hrejected⟩
  · rwa [Registry.after, htaken]
  · rwa [Registry.after, hrejected]

theorem Unambiguous.afterAll (h : registry.Unambiguous) (registrations : List Registration) :
    (registry.afterAll registrations).Unambiguous := by
  unfold Registry.afterAll
  induction registrations generalizing registry with
  | nil => exact h
  | cons registration rest ih => exact ih (h.after registration)

end Registry

/-- After any registrations the registry is unambiguous.  A further one is rejected exactly if it
would end this, and then changes nothing; otherwise it is what is added.  A name of a group is
answered by the one command that has it, and by none if none has it. -/
theorem registrations_unambiguous (registrations : List Registration) :
    let registry := Registry.empty.afterAll registrations
    registry.Unambiguous ∧
    (∀ registration,
      (∃ cause, (registry.submit registration).result = .error (.configuration cause)) ↔
        ¬(registry.extended registration).Unambiguous) ∧
    (∀ registration failure, (registry.submit registration).result = .error failure →
      registry.after registration = registry) ∧
    (∀ registration, (registry.submit registration).result = .ok () →
      registry.after registration = registry.extended registration) ∧
    (∀ group name command, registry.find? group name = some command ↔
      command ∈ registry.commands ∧ command.group = group ∧ name ∈ command.names) ∧
    ∀ group name, registry.find? group name = none ↔
      ∀ command ∈ registry.commands, command.group = group → name ∉ command.names := by
  intro registry
  have hunambiguous : registry.Unambiguous := Registry.unambiguous_empty.afterAll registrations
  have hsubmit := hunambiguous.submit_cases
  refine ⟨hunambiguous, fun registration => ?_, fun registration failure h => ?_,
    fun registration h => ?_, fun _ _ _ => hunambiguous.find?_eq_some_iff,
    fun _ _ => Registry.find?_eq_none_iff⟩
  · rcases hsubmit registration with ⟨hextended, htaken⟩ | ⟨hextended, cause, hrejected⟩
    · simp [hextended, htaken]
    · simp [hextended, hrejected]
  · rcases hsubmit registration with ⟨-, htaken⟩ | ⟨-, cause, hrejected⟩
    · rw [htaken] at h
      cases h
    · rw [Registry.after, hrejected]
  · rcases hsubmit registration with ⟨-, htaken⟩ | ⟨-, cause, hrejected⟩
    · rw [Registry.after, htaken]
    · rw [hrejected] at h
      cases h

end StorageSurvey.Commands
