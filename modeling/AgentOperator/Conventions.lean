import AgentOperator.Duration

/-! Names, labels and defaults that the whole operator agrees on. -/
namespace AgentOperator.Conventions

def apiGroup : String := "agents.nodeagent.dev"

def apiVersion : String := "v1alpha1"

/-- Identity under which desired objects are applied; also the managed-by label. -/
def fieldManager : String := "node-agent-operator"

/-- The finalizer that holds an instance until its explicit cleanup has run. -/
def cleanupMarker : String := "agents.nodeagent.dev/cleanup"

def reconciledType : String := "Reconciled"

def availableType : String := "Available"

def appLabel : String := "app.kubernetes.io/name"

def instanceLabel : String := "app.kubernetes.io/instance"

def managedByLabel : String := "app.kubernetes.io/managed-by"

def credentialLabel : String := "agents.nodeagent.dev/credential"

def expirationAnnotation : String := "agents.nodeagent.dev/token-expiration"

def tokenKey : String := "token"

def agentApp : String := "node-agent"

def scannerApp : String := "node-scanner"

def audiences : List String := ["agents.nodeagent.dev"]

def tokenTtl : Duration := .ofSecs 3600

/-- A credential this close to its expiration is issued anew. -/
def expiryBuffer : Duration := .ofSecs 600

def pollInterval : Duration := .ofSecs 1

def existingSecretTimeout : Duration := .ofSecs 2

def managedAccountTimeout : Duration := .ofSecs 60

def standardAccountTimeout : Duration := .ofSecs 10

def operatorNamespace : String := "node-agent-system"

def agentImage : String := "ghcr.io/nodeagent/agent:latest"

def agentPort : Int := 9100

end AgentOperator.Conventions
