import StorageSurvey.Document.Reader
import StorageSurvey.Orchestrator.Objects

/-!
# The objects of the orchestrator in documents

The fields that matter of every object.  Any of them may be absent or null.
-/

namespace StorageSurvey.Orchestrator

open StorageSurvey.Document

variable {σ : Type} {m : Type → Type} [Monad m] [MonadExceptOf Fault m] (d : Dialect σ m)

/-- Reads a value that may be null, which stands for `default`. -/
def orElse {α : Type} (read : Reader σ m α) (default : α) : Reader σ m α := fun path tree => do
  return (← d.optional read path tree).getD default

def Metadata.shape : Shape σ m Metadata where
  name := "ObjectMeta"
  blank := .blank
  fields := [
    .of "namespace" false (d.optional d.text)
      fun namespaceName metadata => { metadata with namespaceName },
    .of "name" false (d.optional d.text) fun name metadata => { metadata with name }]

/-- A reference to a claim, read as the name of the claim. -/
def claimSourceShape : Shape σ m String where
  name := "PersistentVolumeClaimVolumeSource"
  blank := ""
  fields := [.of "claimName" false (orElse d d.text "") fun claimName _ => claimName]

def PodVolume.shape : Shape σ m PodVolume where
  name := "Volume"
  blank := ⟨"", none⟩
  fields := [
    .of "name" false (orElse d d.text "") fun name volume => { volume with name },
    .of "persistentVolumeClaim" false (d.optional (d.record (claimSourceShape d)))
      fun claimName volume => { volume with claimName }]

/-- A mount, read as the name of the volume. -/
def mountShape : Shape σ m String where
  name := "VolumeMount"
  blank := ""
  fields := [.of "name" false (orElse d d.text "") fun name _ => name]

def ContainerSpec.shape : Shape σ m ContainerSpec where
  name := "Container"
  blank := ⟨"", none⟩
  fields := [
    .of "name" false (orElse d d.text "") fun name container => { container with name },
    .of "volumeMounts" false (d.optional (d.list (d.record (mountShape d))))
      fun mounts container => { container with mounts }]

def PodSpec.shape : Shape σ m PodSpec where
  name := "PodSpec"
  blank := .blank
  fields := [
    .of "volumes" false (d.optional (d.list (d.record (PodVolume.shape d))))
      fun volumes spec => { spec with volumes },
    .of "containers" false (orElse d (d.list (d.record (ContainerSpec.shape d))) [])
      fun containers spec => { spec with containers },
    .of "initContainers" false (d.optional (d.list (d.record (ContainerSpec.shape d))))
      fun initContainers spec => { spec with initContainers }]

def PodObject.shape : Shape σ m PodObject where
  name := "Pod"
  blank := ⟨.blank, none⟩
  fields := [
    .of "metadata" false (orElse d (d.record (Metadata.shape d)) .blank)
      fun metadata pod => { pod with metadata },
    .of "spec" false (d.optional (d.record (PodSpec.shape d))) fun spec pod => { pod with spec }]

/-- The specification of a claim, read as the name of its volume. -/
def claimSpecShape : Shape σ m (Option String) where
  name := "PersistentVolumeClaimSpec"
  blank := none
  fields := [.of "volumeName" false (d.optional d.text) fun volumeName _ => volumeName]

def ClaimObject.shape : Shape σ m ClaimObject where
  name := "PersistentVolumeClaim"
  blank := ⟨.blank, none⟩
  fields := [
    .of "metadata" false (orElse d (d.record (Metadata.shape d)) .blank)
      fun metadata claim => { claim with metadata },
    .of "spec" false (orElse d (d.record (claimSpecShape d)) none)
      fun volumeName claim => { claim with volumeName }]

end StorageSurvey.Orchestrator
