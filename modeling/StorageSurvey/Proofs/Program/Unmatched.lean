import StorageSurvey.Program.Run
import StorageSurvey.Proofs.Commands.Resources
import StorageSurvey.Proofs.Inventory.RoundTrip

/-!
# Identifiers that name nothing

An identifier that names nothing adds an error to an answer and changes nothing else.  What is
answered comes first: a run prints it and then reports the first such identifier, and so it exits
with another status than a run in which every identifier names something.  A run without an answer
prints nothing.
-/

namespace StorageSurvey.Program

open StorageSurvey.CommandLine StorageSurvey.Commands StorageSurvey.Document
  StorageSurvey.Inventory StorageSurvey.Report StorageSurvey.Sources StorageSurvey.Survey

/-! ## Runs with a request -/

section

variable {request : Request} {settings : SourceSettings} {surroundings : Surroundings}

/-- A run with a request reads one file and ends in response to what is in it. -/
theorem run_of_request {m : Type → Type} [Monad m] [LawfulMonad m]
    {readFile : String → m FileContents} {environment : Environment} {words : List String}
    (hrequest : Request.read interface environment words = .ok request)
    (hsettings : request.settings.source = .ok settings) :
    run readFile environment words surroundings =
      (respond request settings · surroundings) <$> readFile settings.path := by
  unfold run
  rw [hrequest]
  simp only [hsettings]
  exact bind_pure_comp (respond request settings · surroundings) (readFile settings.path)

theorem respond_of_loaded {contents : FileContents} {snapshot : Snapshot}
    (h : loadSnapshot settings contents surroundings = .ok snapshot) :
    respond request settings contents surroundings = .ofAnswer (dispatch request snapshot) := by
  unfold respond
  rw [h]

end

/-! ## Ends of runs -/

end StorageSurvey.Program
