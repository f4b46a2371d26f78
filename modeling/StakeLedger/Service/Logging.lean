import StakeLedger.Service.Uri

/-!
# Logging

An instance of the service is named after a base and the label of its deployment. Spans are exported
to a collector if its address is given. The exporter is made first; after that a subscriber is
installed, of which there can be only one.
-/

namespace StakeLedger

/-- The environment variable that holds the address of the collector. -/
def collectorVariable : String := "STAKING_INDEXER_OTLP_URL"

/-- The environment variable that holds the label of the deployment. -/
def labelVariable : String := "STAKING_INDEXER_SVC_LABEL"

/-- The name of the service. -/
def serviceName : String := "staking-indexer"

/-- The name of an instance: `base`, and behind it the `label` if there is one. -/
def instanceName (base : String) (label : Option String) : String :=
  match label with
  | none => base
  | some label => if label.isEmpty then base else s!"{base}%{label}"

/-- Why logging does not start. -/
inductive LoggingError where
  /-- The exporter cannot be made, since the address of the collector has a `fault`. -/
  | exporter (fault : Uri.Fault)
  | subscriber
  deriving DecidableEq, Repr

/-- The text shown when logging does not start, with the fault of the address. -/
def LoggingError.message : LoggingError → String
  | exporter fault =>
    s!"could not build otlp exporter: Exporter invalid URI {fault.message} " ++
      "encountered the following error(s): otlp"
  | subscriber =>
    "could not install subscriber: a global default trace dispatcher has already been set"

/-- Starts logging, with the address of a `collector` if there is one. The address is checked
first. -/
def startLogging (hasSubscriber : Bool) (collector : Option String) : Except LoggingError Unit := do
  match collector with
  | none => pure ()
  | some address => (Uri.check address).mapError .exporter
  if hasSubscriber then throw .subscriber

end StakeLedger
