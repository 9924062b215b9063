import StorageSurvey.Proofs.Commands.Answers
import StorageSurvey.Proofs.Report.Decoding

/-!
# Both notations hold the same

A command answers in JSON and in YAML with texts that are decoded to one value.  No text of the
cluster is taken for a number, a boolean or a null in either notation, since the value of a text is
a text; and no table has a key twice, not even where the fields of several records are written as
one.
-/

namespace StorageSurvey.Commands

open StorageSurvey.Document StorageSurvey.Survey

/-- Whether two outcomes, in JSON and in YAML, are the same failure or hold the same value and
report the same identifier as unmatched. -/
inductive Agree : Except Failure Output → Except Failure Output → Prop
  | failed (failure : Failure) : Agree (.error failure) (.error failure)
  | answered {json yaml : Output} {datum : Datum}
      (hjson : Json.decode json.text = some datum.value)
      (hyaml : Yaml.decode yaml.text = some datum.value)
      (hkeys : datum.value.DistinctKeys)
      (hunmatched : json.unmatched = yaml.unmatched) : Agree (.ok json) (.ok yaml)

theorem Answer.agree (answer : Answer) :
    Agree (.ok (answer.output .json)) (.ok (answer.output .yaml)) :=
  .answered (Report.decode_render_json answer.wellFormed answer.text)
    (Report.decode_render_yaml answer.isCollection answer.wellFormed answer.text)
    answer.wellFormed.distinctKeys rfl

/-- What a command answers in JSON agrees with what it answers in YAML. -/
theorem notations_agree {command : Command} (hmem : command ∈ Registry.builtin.commands)
    (view : View) (identifiers : List String) (showLabels : Bool) :
    Agree (command.action view ⟨.json, identifiers, showLabels⟩)
      (command.action view ⟨.yaml, identifiers, showLabels⟩) := by
  obtain ⟨answer, hrenders⟩ := exists_renders hmem
  rw [hrenders view .json, hrenders view .yaml]
  cases answer view identifiers showLabels with
  | error failure => exact .failed failure
  | ok answer => exact answer.agree

/-- The version of this node would be null, and its label a number, if they were not quoted. -/
def lookalikeNode : Inventory.Node where
  id := "n1"
  hostname := "0x1F"
  managementIp := "true"
  dataIp := "1e3"
  schedulerName := "null"
  pools := []
  status := .ok
  labels := .ofList [("017", ".inf")]
  version := some "~"

theorem lookalikes_agree :
    Agree (getNodes (.ofSnapshot ⟨none, [lookalikeNode], [], [], []⟩) ⟨.json, ["0x1F"], false⟩)
      (getNodes (.ofSnapshot ⟨none, [lookalikeNode], [], [], []⟩) ⟨.yaml, ["0x1F"], false⟩) :=
  notations_agree List.mem_cons_self _ _ _

end StorageSurvey.Commands
