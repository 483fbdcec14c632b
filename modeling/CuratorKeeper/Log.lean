/-! # Log lines

Every line has a level, the component that writes it, and a text.
-/
namespace CuratorKeeper

inductive Level
  | debug
  | info
  | warning
  | error
  deriving DecidableEq

def Level.text : Level → String
  | .debug => "DEBUG"
  | .info => "INFO"
  | .warning => "WARNING"
  | .error => "ERROR"

/-- Who writes a log line. -/
inductive Component
  | creator
  | drift
  | status
  | teardown
  | retry
  | reconciler
  | desiredState
  | operator
  /-- The handler of an event. -/
  | handler
  deriving DecidableEq

def Component.text : Component → String
  | .creator => "curation.creator"
  | .drift => "curation.drift"
  | .status => "curation.status"
  | .teardown => "curation.teardown"
  | .retry => "curation.retry"
  | .reconciler => "curation.reconciler"
  | .desiredState => "curation.desired_state"
  | .operator => "curation-operator"
  | .handler => "handler"

structure LogLine where
  level : Level
  component : Component
  text : String
  deriving DecidableEq

def LogLine.display (line : LogLine) : String :=
  line.level.text ++ " " ++ line.component.text ++ ": " ++ line.text

end CuratorKeeper
