import StorageSurvey.Commands.Describe
import StorageSurvey.Commands.Get

/-!
# The commands of the program
-/

namespace StorageSurvey.Commands

def Parameters.none : Parameters :=
  ⟨false, false⟩

def Parameters.identifiersOnly : Parameters :=
  ⟨true, false⟩

def Parameters.identifiersAndLabels : Parameters :=
  ⟨true, true⟩

/-- The registry of the program's own commands. -/
def Registry.builtin : Registry where
  groups := ["get", "describe"]
  commands := [
    ⟨"get", "nodes", ["node"], .identifiersAndLabels, getNodes⟩,
    ⟨"get", "volumes", ["volume"], .identifiersOnly, getVolumes⟩,
    ⟨"get", "pvc", [], .identifiersOnly, getClaims⟩,
    ⟨"describe", "volume", ["volumes"], .identifiersOnly, describeVolumes⟩,
    ⟨"describe", "pvc", [], .identifiersOnly, describeClaims⟩,
    ⟨"describe", "cluster", [], .none, describeCluster⟩]

/-- Registers groups and then commands with an empty registry, up to the first that it rejects. -/
def Registry.build (groups : List String) (commands : List Command) : Except Failure Registry := do
  let registry ← groups.foldlM (fun registry group => registry.addGroup group) Registry.empty
  commands.foldlM (fun registry command => registry.register command) registry

/-- The program's own registry is what comes of registering its groups and commands. -/
theorem Registry.build_builtin : build builtin.groups builtin.commands = .ok builtin :=
  rfl

end StorageSurvey.Commands
