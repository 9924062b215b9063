import StorageSurvey.Survey.Nodes

/-!
# Where a volume is attached

A volume is attached on the node that it names by identifier.  A volume that names no node is
detached; one that names a node which is not known is a failure, never a detached volume.
-/

namespace StorageSurvey.Survey

open StorageSurvey.Inventory

/-- Where a volume is attached. -/
inductive AttachedState
  | detached
  | on (hostname : String)
  deriving DecidableEq, Repr

def AttachedState.text : AttachedState → String
  | detached => "Detached"
  | on hostname => "on " ++ hostname

/-- The node on which a volume is attached, or none if it is detached. -/
def Nodes.attachedNode (nodes : Nodes) (volume : Volume) : Except Failure (Option Node) :=
  if volume.attachedOn = "" then .ok none
  else match nodes.byId? volume.attachedOn with
    | some node => .ok (some node)
    | none => .error (.danglingAttachment volume.name volume.attachedOn)

def Nodes.attachedState (nodes : Nodes) (volume : Volume) : Except Failure AttachedState :=
  return match ← nodes.attachedNode volume with
    | some node => .on node.hostname
    | none => .detached

end StorageSurvey.Survey
