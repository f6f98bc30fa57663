/-! # Log levels

How much a run reports: errors only, warnings, progress, or everything. A level is named
without regard to ASCII case; `warning` is another name for `warn`.
-/

namespace Localize

/-- How much a run reports, from least to most. -/
inductive LogLevel where
  | error
  | warn
  | info
  | debug
deriving Repr, DecidableEq

/-- Reads a level name without regard to ASCII case. -/
def LogLevel.parse (value : String) : Option LogLevel :=
  match String.ofList (value.toList.map Char.toLower) with
  | "error" => some .error
  | "warn" | "warning" => some .warn
  | "info" => some .info
  | "debug" => some .debug
  | _ => none

/-- The name of a level. -/
def LogLevel.name : LogLevel → String
  | .error => "error"
  | .warn => "warn"
  | .info => "info"
  | .debug => "debug"

/-- The rank of a level: higher ranks report more. -/
def LogLevel.rank : LogLevel → Nat
  | .error => 1
  | .warn => 2
  | .info => 3
  | .debug => 4

end Localize
