import HourlyUsage.Numeral
import HourlyUsage.Snapshot.Bucket
import HourlyUsage.Text.Utf8
/-!
# Row keys

A snapshot is identified by its bucket, its cluster and its path. The row key is the text
`<inverted bucket start>!<cluster>!<path>` in UTF-8, where the bucket start is taken from the
greatest one and written with nineteen digits: newer hours sort first, and within an hour and a
cluster rows sort by path. A cluster holds no `!`; a path may, since reading splits at the first
two only.

Sources: `StatsKey`, `invert_timestamp`, `encode_key`, `decode_key`.
-/
namespace HourlyUsage

def separator : CodePoint := 0x21

def maxBucketStart : Int := 0x7FFFFFFFFFFFFFFF

def invertedWidth : Nat := 19

/-- The bucket start counted back from the greatest one (`invert_timestamp`). -/
def invert (bucketStart : Int) : Int := maxBucketStart - bucketStart

/-- What a snapshot is a snapshot of (`StatsKey`). -/
structure SnapshotKey where
  bucketStart : Int
  cluster : Text
  path : Text
  deriving DecidableEq

namespace SnapshotKey

inductive Invalid where
  | emptyCluster
  | separatorInCluster (cluster : Text)
  | bucketOutOfRange (bucketStart : Int)
  | notEncodable (e : Utf8.EncodeError)
  deriving DecidableEq

/-- The text of a row key whose bucket start is in range. -/
def keyText (bucketStart : Int) (cluster path : Text) : Text :=
  Text.concat [Numeral.fixed invertedWidth (invert bucketStart).toNat, [separator], cluster,
    [separator], path]

/-- The row key of a snapshot or, with the beginning of a path, what all row keys below it start
with (`encode_key`). -/
def encode (bucketStart : Int) (cluster path : Text) : Except Invalid Bytes :=
  if cluster.isEmpty then .error .emptyCluster
  else if separator ∈ cluster then .error (.separatorInCluster cluster)
  else if bucketStart < 0 ∨ maxBucketStart < bucketStart then .error (.bucketOutOfRange bucketStart)
  else
    match Utf8.encode (keyText bucketStart cluster path) with
    | .ok bytes => .ok bytes
    | .error e => .error (.notEncodable e)

def toBytes (k : SnapshotKey) : Except Invalid Bytes := encode k.bucketStart k.cluster k.path

inductive Flaw where
  | notText (e : Utf8.DecodeError)
  /-- There are only this many parts. -/
  | missingParts (count : Nat)
  | bucketNotNumeral
  | bucketOutOfRange
  deriving DecidableEq

inductive DecodeError where
  | malformed (data : Bytes) (flaw : Flaw)
  /-- The first part is a numeral of this many digits, which is too many to be read. -/
  | numeralTooLong (digits : Nat)
  deriving DecidableEq

/-- The three parts of a row key's text, or how many there are if fewer. -/
def parts (t : Text) : Except Nat (Text × Text × Text) :=
  match Text.cut? separator t with
  | none => .error 1
  | some (inverted, rest) =>
    match Text.cut? separator rest with
    | none => .error 2
    | some (cluster, path) => .ok (inverted, cluster, path)

/-- Reads a stored row key (`decode_key`). -/
def decode (data : Bytes) : Except DecodeError SnapshotKey :=
  match Utf8.decode data with
  | .error e => .error (.malformed data (.notText e))
  | .ok t =>
    match parts t with
    | .error count => .error (.malformed data (.missingParts count))
    | .ok (inverted, cluster, path) =>
      match Numeral.digits? inverted with
      | none | some [] => .error (.malformed data .bucketNotNumeral)
      | some digits =>
        if Numeral.maxDigits < digits.length then .error (.numeralTooLong digits.length)
        else if maxBucketStart < Numeral.value digits then
          .error (.malformed data .bucketOutOfRange)
        else .ok ⟨invert (Numeral.value digits), cluster, path⟩

end SnapshotKey

end HourlyUsage
