import HourlyUsage.Proofs.Http.Escaping
import HourlyUsage.Proofs.Http.Usage
import HourlyUsage.Proofs.Numeral
import HourlyUsage.Proofs.Text.Pieces
/-!
# A request for every listing

Whatever the name of a cluster and a path are, there is a request that asks for them: what has a
meaning of its own in a target is percent-encoded there.

Sources: `list_hdfs_stats` and the routing of requests to it.

Results:
* `read_parameters`: the parameters of a listing are read back as that listing.
* `asks_ofListing`: a request for the usage of a cluster.
-/
namespace HourlyUsage.Http

open Utf8 (Encodable)

namespace Listing

def parameters (listing : Listing) : List (Text × Text) :=
  [(pathName, listing.path), (limitName, Numeral.ofInt listing.limit)] ++
    (listing.time?.map fun n => (timeName, Numeral.ofInt n)).toList

/-- What can be asked for: texts without surrogates, a limit and an instant within their bounds, and
the instant with no more digits than are read. -/
structure Sendable (listing : Listing) : Prop where
  path : Encodable listing.path
  limit : 1 ≤ listing.limit ∧ listing.limit ≤ 10000
  time : ∀ n ∈ listing.time?, 0 ≤ n ∧ n.toNat < 10 ^ Numeral.maxDigits

theorem readInt_of_sent {name : Text} {bounds : Validation.Bounds} {sent : List (Text × Text)}
    {n : Int} (hsent : parameter? name sent = some (Numeral.ofInt n)) (hn : 0 ≤ n)
    (hshort : n.toNat < 10 ^ Numeral.maxDigits) (hbounds : bounds.check n = .ok n) :
    readInt name bounds sent = .ok (some n) := by
  obtain ⟨m, rfl⟩ := Int.eq_ofNat_of_zero_le hn
  have hread : Validation.intOfText (Numeral.ofInt m) = .ok (m : Int) := by
    rw [Validation.intOfText]
    exact (Numeral.readStrict_ofNat hshort).symm ▸ rfl
  have hchecked : (Validation.intOfText (Numeral.ofInt m)).bind bounds.check = .ok (m : Int) := by
    rw [hread]
    exact hbounds
  rw [readInt, hsent]
  dsimp only
  rw [hchecked]

theorem readInt_of_absent {name : Text} {bounds : Validation.Bounds} {sent : List (Text × Text)}
    (habsent : parameter? name sent = none) : readInt name bounds sent = .ok none := by
  rw [readInt, habsent]

/-- The parameters of a listing are read back as that listing. -/
theorem read_parameters {listing : Listing} (h : listing.Sendable) :
    read listing.parameters = .ok listing := by
  obtain ⟨path, limit, time?⟩ := listing
  obtain ⟨hleast, hgreatest⟩ := h.limit
  dsimp only at hleast hgreatest
  have hlp : limitName ≠ pathName := by decide
  have htp : timeName ≠ pathName := by decide
  have htl : timeName ≠ limitName := by decide
  have hpath : parameter? pathName (parameters ⟨path, limit, time?⟩) = some path := by
    cases time? <;> simp [parameter?, parameters, hlp, htp]
  have hlimit : readInt limitName limitBounds (parameters ⟨path, limit, time?⟩) =
      .ok (some limit) := by
    refine readInt_of_sent ?_ (by omega) ?_ ?_
    · cases time? <;> simp [parameter?, parameters, htl]
    · have hfive : 10 ^ 5 ≤ 10 ^ Numeral.maxDigits := Nat.pow_le_pow_right (by decide) (by decide)
      omega
    · have hbelow : ¬ limit < limitBounds.least := Int.not_lt.2 hleast
      rw [Validation.Bounds.check, if_neg hbelow]
      exact if_neg (Int.not_lt.2 hgreatest)
  have htime : readInt timeName timeBounds (parameters ⟨path, limit, time?⟩) = .ok time? := by
    cases time? with
    | none => exact readInt_of_absent (by simp [parameter?, parameters, htp.symm, htl.symm])
    | some n =>
      obtain ⟨hn, hshort⟩ := h.time n rfl
      refine readInt_of_sent ?_ hn hshort ?_
      · simp [parameter?, parameters]
      · exact if_neg (Int.not_lt.2 hn)
  rw [read, hlimit, htime, hpath]
  rfl

theorem encodable_parameters {listing : Listing} (h : listing.Sendable) :
    ∀ f ∈ listing.parameters, Encodable f.1 ∧ Encodable f.2 := by
  have hname : ∀ name ∈ [pathName, limitName, timeName], Encodable name := by
    have hascii : ∀ name ∈ [pathName, limitName, timeName],
        name.all (fun c => c.val < 0x80) = true := by decide
    exact fun name hmem => Utf8.encodable_of_lt (by simpa using hascii name hmem)
  have hnumber : ∀ n, Encodable (Numeral.ofInt n) := fun n =>
    Utf8.encodable_of_lt fun c hc => (Numeral.mem_ofInt hc).elim (fun h => h ▸ by decide)
      fun h => Nat.lt_of_le_of_lt h.2 (by decide)
  intro f hf
  rw [parameters, List.mem_append, Option.mem_toList, Option.map_eq_some_iff] at hf
  rcases hf with hf | ⟨n, -, rfl⟩
  · simp only [List.mem_cons, List.not_mem_nil, or_false] at hf
    rcases hf with rfl | rfl
    · exact ⟨hname _ (by simp), h.path⟩
    · exact ⟨hname _ (by simp), hnumber _⟩
  · exact ⟨hname _ (by simp), hnumber n⟩

end Listing

/-! ## The request -/

def Request.ofListing (cluster : Text) (listing : Listing) : Request where
  method := text "GET"
  target := encodeText isUnreserved (Route.usageStem ++ cluster) ++ 0x3F :: spell listing.parameters
  headers := []

theorem ofPath?_usageStem {cluster : Text} (hnonempty : cluster ≠ [])
    (hwhole : Path.slash ∉ cluster) :
    Route.ofPath? (Route.usageStem ++ cluster) = some (.usage cluster) := by
  have hafter : Text.after? Route.usageStem (Route.usageStem ++ cluster) = some cluster :=
    Text.after?_eq_some_iff.2 rfl
  rw [Route.ofPath?, hafter]
  simp [hnonempty, hwhole]

/-- **Every listing can be asked for**, of every cluster with a name that is not empty and holds no
slash. -/
theorem asks_ofListing {cluster : Text} {listing : Listing} (hnonempty : cluster ≠ [])
    (hwhole : Path.slash ∉ cluster) (hcluster : Encodable cluster) (hlisting : listing.Sendable) :
    (Request.ofListing cluster listing).Asks cluster listing := by
  have hascii : Route.usageStem.all (fun c => c.val < 0x80) = true := by decide
  have hstem : Encodable (Route.usageStem ++ cluster) :=
    Utf8.encodable_append.2 ⟨Utf8.encodable_of_lt (by simpa using hascii), hcluster⟩
  have htarget : Target.ofText (Request.ofListing cluster listing).target =
      ⟨Route.usageStem ++ cluster, spell listing.parameters⟩ := by
    rw [Target.ofText, Request.ofListing, Text.cut?_append (mark_not_mem (by decide) _)]
    dsimp only
    rw [decodeText_encodeText harmless_isUnreserved hstem]
  refine ⟨rfl, ?_, ?_⟩
  · rw [htarget]
    exact ofPath?_usageStem hnonempty hwhole
  · rw [htarget, parameters_spell (Listing.encodable_parameters hlisting)]
    exact Listing.read_parameters hlisting

end HourlyUsage.Http
