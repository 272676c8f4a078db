import FunctionObjects.Document.Reading
import FunctionObjects.Function.Chain
import FunctionObjects.Logging
import FunctionObjects.Pipeline.Config
/-!
# Pipelines

A pipeline is the chain of the functions that its steps specify.  Steps that do not fit are refused,
or else reported as warnings.
-/

namespace FunctionObjects

namespace Pipeline

variable (d : Dispatch)

/-- The logger of pipelines. -/
def logger : String := "fnweave.api.pipeline"

/-- Makes the function that a step specifies. -/
def step (s : Spec Document) : Run Value := Reading.ofSpec d (s.map (Reading.value d))

/-- Builds the chain of a configuration. -/
def build (c : PipelineConfig) : Run Value := do
  let functions ← Run.newList (← c.steps.mapM (step d))
  let chain ← Construction.object d LibraryClass.functionComposite.className (.ofList [functions])
  let result ← Run.lift ((← get).validateChain (← d.itemsOf chain "functions"))
  if !result.isValid then
    if c.failOnIncompatible then throw (.invalidPipeline c.name result)
    Run.log [⟨.warning, logger, "Pipeline '" ++ c.name ++ "' has incompatible steps"⟩]
    Run.log (result.records .warning)
  return chain

/-- Builds the pipeline that a value configures. -/
def load (v : Value) : Run Value := do build d (← PipelineConfig.ofValue d v)

end Pipeline

end FunctionObjects
