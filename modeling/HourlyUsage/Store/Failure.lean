import HourlyUsage.Store.Scanning
/-!
# Failures that callers are told of

A caller can expect three kinds of failure of a query: arguments that are refused, a database that
cannot be used, and a stored row key that cannot be read. Any other failure is a defect, of the
stored data or of the caller, and is passed on as it is.

Sources: `HdfsUsageError`, `InvalidInputError`, `MalformedKeyError`, `StoreUnavailableError`.
-/
namespace HourlyUsage

/-- The kinds of failure that a caller can expect. -/
inductive FailureKind where
  | invalidInput
  | storeUnavailable
  | malformedKey
  deriving DecidableEq

def FailureKind.name : FailureKind → Text
  | invalidInput => text "InvalidInputError"
  | storeUnavailable => text "StoreUnavailableError"
  | malformedKey => text "MalformedKeyError"

/-- A failure that a caller can expect. -/
structure KnownFailure where
  kind : FailureKind
  message : Text
  deriving DecidableEq

def KnownFailure.line (f : KnownFailure) : Text :=
  Text.concat [f.kind.name, text ": ", f.message]

/-- A batch size that is refused counts as an argument that is. -/
def Query.BatchSizeNotPositive.known (e : Query.BatchSizeNotPositive) : KnownFailure :=
  ⟨.invalidInput, e.message⟩

/-- The failure of a store operation as a caller can expect it, if it is one. -/
def StoreError.known? (e : StoreError) : Option KnownFailure :=
  match e with
  | .unavailable _ _ => some ⟨.storeUnavailable, e.message⟩
  | .notEncodable _ => none
  | .batchTooLarge => none

namespace Query

/-- The refusal of an argument as a caller can expect it, if it is one. -/
def Refusal.known? (e : Refusal) : Option KnownFailure :=
  match e with
  | .limitNotPositive _ => some ⟨.invalidInput, e.message⟩
  | .noKey _ => some ⟨.invalidInput, e.message⟩
  | .noInstant _ => none

def Failure.message : Failure StoreError → Text
  | .refused e => e.message
  | .source e => e.message
  | .key e => e.message
  | .owner e => e.message

/-- The failure of a query as a caller can expect it, if it is one. -/
def Failure.known? : Failure StoreError → Option KnownFailure
  | .refused e => e.known?
  | .source e => e.known?
  | .key e =>
    match e with
    | .malformed _ _ => some ⟨.malformedKey, e.message⟩
    | .numeralTooLong _ => none
  | .owner _ => none

end Query

end HourlyUsage
