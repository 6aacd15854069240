import HourlyUsage.Binary64
import HourlyUsage.Json.Printer
import HourlyUsage.Numeral
/-!
# Hourly buckets

Time is cut into UTC hours; an instant belongs to the bucket that starts at or before it. Instants
come as numbers or texts; a fraction is cut off towards zero before the hour is taken.

Sources: `bucket_of`.
-/
namespace HourlyUsage

def bucketSeconds : Int := 3600

/-- The start of the hour that contains an instant, both in seconds since the epoch
(`bucket_of`). -/
def bucketOf (seconds : Int) : Int := seconds - seconds % bucketSeconds

/-- A point in time as a caller states it. -/
inductive Instant where
  | number (n : Json.Number)
  | text (t : Text)
  | absent
  deriving DecidableEq

namespace Instant

inductive Fault where
  | numeral (t : Text) (fault : Numeral.Fault)
  | notANumber
  | infinite
  | absent
  deriving DecidableEq

def ofSeconds (n : Int) : Instant := .number (.whole n)

def seconds : Instant → Except Fault Int
  | .number (.whole n) => .ok n
  | .number (.decimal negative digits exponent) =>
    match Binary64.ofDecimal digits exponent with
    | .finite n _ => .ok (Numeral.signed negative n)
    | .infinite => .error .infinite
  | .number .notANumber => .error .notANumber
  | .number (.infinite _) => .error .infinite
  | .text t =>
    match Numeral.read t with
    | .ok n => .ok n
    | .error fault => .error (.numeral t fault)
  | .absent => .error .absent

/-- The instant that is asked for, or else the whole second that the clock shows. -/
def orNow (asked? : Option Int) (now : Instant) : Except Fault Instant :=
  match asked? with
  | some n => .ok (ofSeconds n)
  | none => now.seconds.map ofSeconds

def bucket (i : Instant) : Except Fault Int := i.seconds.map bucketOf

def Fault.message : Fault → Text
  | .numeral t fault => fault.message t
  | .notANumber => HourlyUsage.text "cannot convert float NaN to integer"
  | .infinite => HourlyUsage.text "cannot convert float infinity to integer"
  | .absent => HourlyUsage.text
      "int() argument must be a string, a bytes-like object or a real number, not 'NoneType'"

end Instant

end HourlyUsage
