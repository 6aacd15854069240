import HourlyUsage.Query.Source
/-!
# A source that follows a script

Its rows and its failures are laid down in advance, and it keeps account of what it was asked for.
It shows what a query makes of rows and failures that no real store would give.

Sources: the protocol `Scanner`, of which a store's scanner is one instance and a script another.
-/
namespace HourlyUsage.Query

/-- What the source will do. -/
structure Script where
  rows : List Row
  /-- The number of rows after which the scan breaks off instead of giving the next one. -/
  breakAfter : Option Nat
  /-- The words of the failure to close the scanner. -/
  closeError : Option Text
  /-- The words of the failure to open a scanner. -/
  openError : Option Text

inductive ScriptFailure where
  | unavailable (message : Text)
  | connectionReset
  deriving DecidableEq

def ScriptFailure.message : ScriptFailure → Text
  | unavailable message => message
  | connectionReset => text "connection reset during scan"

/-- How far the script has come. -/
structure ScriptState where
  script : Script
  /-- The rows not yet given. -/
  rest : List Row
  pulled : Nat := 0
  closes : Nat := 0
  metrics : Metrics := {}
  /-- The scans asked for, last one first. -/
  scans : List Scan := []
  /-- What was logged, last entry first. -/
  log : List Log.Entry := []

namespace ScriptState

def start (script : Script) : ScriptState := { script, rest := script.rows }

def pull (s : ScriptState) : Pull ScriptFailure × ScriptState :=
  match s.rest with
  | [] => (.ended, s)
  | row :: rest =>
    if s.script.breakAfter = some s.pulled then (.failed .connectionReset, s)
    else
      (.row row, { s with rest, pulled := s.pulled + 1, metrics := s.metrics.record row })

end ScriptState

/-- The source that follows a script. -/
def scripted : Source ScriptState Unit ScriptFailure where
  newFilter s := (0, s)
  openScanner scan s :=
    let s := { s with scans := scan :: s.scans }
    match s.script.openError with
    | some message => (.error (.unavailable message), s)
    | none => (.ok (), s)
  pull _ s := s.pull
  bound _ s := s.rest.length
  metrics _ s := s.metrics
  close _ s :=
    (s.script.closeError.map fun message => ⟨text "OSError", message⟩,
      { s with closes := s.closes + 1 })
  note e s := { s with log := e :: s.log }

end HourlyUsage.Query
