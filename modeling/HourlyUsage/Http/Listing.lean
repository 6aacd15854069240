import HourlyUsage.Http.Message
import HourlyUsage.Json.Printer
import HourlyUsage.Validation
/-!
# The parameters of a listing

A listing of usage takes what the paths start with, the greatest number of records and an instant;
each has a default. The parameters are checked one by one, and every one that is wrong is reported.

Sources: the parameters of `list_hdfs_stats`.
-/
namespace HourlyUsage.Http

open Validation

structure Listing where
  path : Text
  limit : Int
  time? : Option Int
  deriving DecidableEq

/-- A parameter that is wrong. -/
structure Rejection where
  name : Text
  problem : Problem
  /-- What was sent. -/
  input : Text
  deriving DecidableEq

/-- The bound that a number exceeds, by its usual short name. -/
def boundOf : Problem → Option (Text × Json)
  | .tooSmall least => some (text "ge", .int least)
  | .tooGreat greatest => some (text "le", .int greatest)
  | _ => none

/-- A wrong parameter as it is reported. -/
def Rejection.toJson (r : Rejection) : Json :=
  .obj ([(text "type", .str r.problem.kind),
      (text "loc", .arr [.str (text "query"), .str r.name]),
      (text "msg", .str r.problem.message), (text "input", .str r.input)] ++
    match boundOf r.problem with
    | some bound => [(text "ctx", .obj [bound])]
    | none => [])

namespace Listing

def pathName : Text := text "path"
def limitName : Text := text "limit"
def timeName : Text := text "attime"

def defaultLimit : Int := 100

def limitBounds : Bounds := ⟨1, some 10000⟩

def timeBounds : Bounds := ⟨0, none⟩

/-- The integer of a parameter, if it was sent. -/
def readInt (name : Text) (bounds : Bounds) (parameters : List (Text × Text)) :
    Except (List Rejection) (Option Int) :=
  match parameter? name parameters with
  | none => .ok none
  | some input =>
    match (intOfText input).bind bounds.check with
    | .ok n => .ok (some n)
    | .error problem => .error [⟨name, problem, input⟩]

/-- The listing that parameters ask for (`list_hdfs_stats`). -/
def read (parameters : List (Text × Text)) : Except (List Rejection) Listing :=
  match readInt limitName limitBounds parameters, readInt timeName timeBounds parameters with
  | .ok limit?, .ok time? =>
    .ok ⟨(parameter? pathName parameters).getD [], limit?.getD defaultLimit, time?⟩
  | .error limit, .error time => .error (limit ++ time)
  | .error limit, .ok _ => .error limit
  | .ok _, .error time => .error time

end Listing

end HourlyUsage.Http
