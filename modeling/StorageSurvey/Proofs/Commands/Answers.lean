import StorageSurvey.Commands.Builtin
import StorageSurvey.Proofs.Report.Results

/-!
# What commands answer before a format is chosen

No command looks at the format but to render what it has found.  So what it answers in any format
comes from one `Answer`, which is well formed, or it fails in every format in the same way.
-/

namespace StorageSurvey.Commands

open StorageSurvey.Document StorageSurvey.Report StorageSurvey.Survey

/-- What a command has found: a value that can be written in data notation, and the texts for
people. -/
structure Answer where
  datum : Datum
  isCollection : datum.isCollection = true
  wellFormed : datum.WellFormed
  text : Bool → String
  unmatched : Option Failure

namespace Answer

def output (answer : Answer) (format : OutputFormat) : Output where
  text := render format answer.datum answer.text
  unmatched := answer.unmatched

/-- The answer that is a list of items. -/
def ofItems {α : Type} {write : α → Datum} (hwrite : ∀ item, (write item).WellFormed)
    (items : List α) (text : Bool → String) (unmatched : Option Failure) : Answer where
  datum := .list (items.map write)
  isCollection := rfl
  wellFormed := .ofItems fun item _ => hwrite item
  text
  unmatched

end Answer

/-- A command as it answers on a view, with or without labels. -/
abbrev Action := View → List String → Bool → Except Failure Answer

/-- Whether what an action answers in every format is the answer of another rendered. -/
def Renders (action : View → Invocation → Except Failure Output) (answer : Action) : Prop :=
  ∀ view format identifiers showLabels,
    action view ⟨format, identifiers, showLabels⟩ =
      (·.output format) <$> answer view identifiers showLabels

/-! ## Lists -/

theorem renders_getNodes : Renders getNodes fun view identifiers showLabels =>
    let selection := view.nodes.select identifiers
    .ok (.ofItems Inventory.Node.wellFormed selection.items
      (fun wide => nodesText selection.items wide showLabels) selection.failure?) :=
  fun _ _ _ _ => rfl

theorem renders_getVolumes : Renders getVolumes fun view identifiers _ => do
    let selection := view.volumes.select identifiers
    let volumes ← selection.items.mapM (summarizeVolume view)
    return .ofItems VolumeSummary.wellFormed volumes (fun _ => volumesText volumes)
      selection.failure? := by
  intro view format identifiers showLabels
  simp [getVolumes, Answer.output, Answer.ofItems, volumesDatum]

theorem renders_getClaims : Renders getClaims fun view identifiers _ => do
    let selection ← view.selectClaims identifiers
    let claims ← selection.items.mapM (summarizeClaim view)
    return .ofItems ClaimSummary.wellFormed claims (fun _ => claimsText claims)
      selection.failure? := by
  intro view format identifiers showLabels
  simp [getClaims, Answer.output, Answer.ofItems, claimsDatum]

/-! ## Descriptions -/

theorem renders_describeVolumes : Renders describeVolumes fun view identifiers _ => do
    let selection := view.volumes.select identifiers
    let descriptions ← selection.items.mapM (describeVolume view)
    return .ofItems VolumeDescription.wellFormed descriptions
      (fun _ => blocks (descriptions.map (·.text))) selection.failure? := by
  intro view format identifiers showLabels
  simp [describeVolumes, Answer.output, Answer.ofItems]

theorem renders_describeClaims : Renders describeClaims fun view identifiers _ => do
    let selection ← view.selectClaims identifiers
    let descriptions ← selection.items.mapM (describeClaim view)
    return .ofItems ClaimDescription.wellFormed descriptions
      (fun _ => blocks (descriptions.map (·.text))) selection.failure? := by
  intro view format identifiers showLabels
  simp [describeClaims, Answer.output, Answer.ofItems]

theorem renders_describeCluster : Renders describeCluster fun view _ _ =>
    let description := ClusterDescription.ofNodes view.capturedAt view.nodes
    .ok ⟨description.toDatum, rfl, description.wellFormed, fun _ => description.text, none⟩ :=
  fun _ _ _ _ => rfl

/-- Every command of the program renders an answer. -/
theorem exists_renders {command : Command} (hmem : command ∈ Registry.builtin.commands) :
    ∃ answer, Renders command.action answer := by
  simp only [Registry.builtin, List.mem_cons, List.not_mem_nil, or_false] at hmem
  rcases hmem with rfl | rfl | rfl | rfl | rfl | rfl
  · exact ⟨_, renders_getNodes⟩
  · exact ⟨_, renders_getVolumes⟩
  · exact ⟨_, renders_getClaims⟩
  · exact ⟨_, renders_describeVolumes⟩
  · exact ⟨_, renders_describeClaims⟩
  · exact ⟨_, renders_describeCluster⟩

end StorageSurvey.Commands
