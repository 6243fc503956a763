import AgentOperator.Credential.Issuer
import AgentOperator.Step.Marker
import AgentOperator.Step.Resource

/-! The steps that a pass is made of. -/
namespace AgentOperator

inductive Step where
  | apply (step : ApplyStep)
  | delete (step : DeleteStep)
  | provision (step : ProvisionStep)
  | credential (step : CredentialStep)
  | marker (step : MarkerStep)
  deriving DecidableEq

namespace Step

def run : Step → Program StepResult
  | .apply step => step.run
  | .delete step => step.run
  | .provision step => step.run
  | .credential step => step.run
  | .marker step => step.run

def describe : Step → String
  | .apply step => "apply " ++ step.resource.ident.render
  | .delete step => "delete " ++ step.resource.ident.render
  | .provision step => "ensure " ++ step.resource.ident.render
  | .credential step => "credentials " ++ step.secretSlot.key.render
  | .marker step => "finalize " ++ step.kind.name ++ "/" ++ step.key.render

end Step
end AgentOperator
