/-!
# Failures of the application

What can go wrong while the application is set up, by what it concerns.
-/

set_option autoImplicit false

namespace HttpTelemetry

/-- A failure with its details: of the settings, of input or output, or of the metrics endpoint. -/
inductive AppError where
  | config (detail : String)
  | io (detail : String)
  | metrics (detail : String)
  deriving DecidableEq, Repr

namespace AppError

def message : AppError → String
  | .config detail => "Configuration error: " ++ detail
  | .io detail => "I/O error: " ++ detail
  | .metrics detail => "Metrics error: " ++ detail

end AppError

end HttpTelemetry
