import HourlyUsage.Proofs.Store.Run
import HourlyUsage.Proofs.Table.Limits
import HourlyUsage.Proofs.Text.Utf8
/-!
# What a pull does to the host

A pull changes one iteration, the counters of its scanner and the memory of that scanner's filter;
every other iteration and scanner stays as it was. A database allows statements no more than so many
columns and so many keys: `Scan.Fits` says which tables a scan can be read from.

Sources: the iterator of a scanner, `_column_clause`, `_fetch_batch`.

Results:
* `table_fetchable`: a valid scan reads what is visible to it.
* `supplied_of_fits`, `nextBatch_of_unfit`: which scans can fetch, and what the others fail with.
* `pull_answer`, `pull_engine`: what a pull on an open scanner gives, and what it reads.
* `pull_grown`: the memory of no other filter changes.
-/
namespace HourlyUsage

/-- A scan that a database can be asked for: its batches hold a row at least, and a number of rows
that fits into eight octets at most, and its columns have names that can be written. -/
structure Scan.Valid (scan : Scan) : Prop where
  positive : 0 < scan.batchSize
  bounded : scan.batchSize < Cell.intBound
  names : ∀ column ∈ scan.columns, Utf8.Encodable column.1 ∧ Utf8.Encodable column.2

/-- The statements of a scan are not larger than a database allows: the condition on its columns is
not too deep, and there are not too many variables for the keys of the first batch, of which there
are as many as a batch holds or as there are rows between the start key and the stop key, and for
the columns. -/
structure Scan.Fits (scan : Scan) (t : Table) : Prop where
  depth : scan.columns.length + 3 ≤ Host.mostDepth
  width : min scan.batchSize.toNat (scan.window t none).length + 2 * scan.columns.length ≤
    Host.mostVariables

namespace Host

/-! ## What a scan can fetch -/

section

variable {scan : Scan} {view : Except Fault Table} {t : Table}

theorem visible_of_depth (hdepth : depth scan ≤ mostDepth) (view : Except Fault Table) :
    visible scan view = view := by
  unfold visible
  split
  · rfl
  · exact if_pos hdepth

theorem visible_eq_ok_iff : visible scan view = .ok t ↔ depth scan ≤ mostDepth ∧ view = .ok t := by
  unfold visible
  split
  · exact ⟨nofun, fun ⟨_, h⟩ => nomatch h⟩
  · split
    · next hdepth => exact ⟨fun h => ⟨hdepth, h⟩, And.right⟩
    · next hdeep => exact ⟨nofun, fun ⟨hdepth, _⟩ => absurd hdepth hdeep⟩

/-- A valid scan reads what is visible to it. -/
theorem table_fetchable (hvalid : scan.Valid) (view : Except Fault Table) :
    (fetchable scan view).table = (visible scan view).mapError (.unavailable .scan) := by
  have hsize : isBatchSize scan.batchSize = true := by
    have hpos := hvalid.positive
    have hlow : -Cell.intBound ≤ scan.batchSize := by rw [Cell.intBound]; omega
    simp [isBatchSize, hlow, hvalid.bounded]
  unfold fetchable
  dsimp only
  cases visible scan view with
  | error fault => rfl
  | ok t =>
    dsimp only
    rw [List.findSome?_eq_none_iff.2, hsize]
    · rfl
    · intro name hname
      obtain ⟨column, hcolumn, hname⟩ := List.mem_flatMap.1 hname
      rw [Utf8.surrogatesFrom?_eq_none_iff, ← Utf8.encodable_iff]
      simp only [List.mem_cons, List.not_mem_nil, or_false] at hname
      rcases hname with rfl | rfl
      · exact (hvalid.names column hcolumn).1
      · exact (hvalid.names column hcolumn).2

theorem table_of_depth (hvalid : scan.Valid) (hdepth : depth scan ≤ mostDepth) :
    (fetchable scan (.ok t)).table = .ok t := by
  rw [table_fetchable hvalid, visible_of_depth hdepth]
  rfl

theorem of_table_fetchable (htable : (fetchable scan view).table = .ok t) : view = .ok t := by
  unfold fetchable at htable
  dsimp only at htable
  split at htable
  · cases htable
  · next t' hvisible =>
    split at htable
    · cases htable
    · split at htable
      · cases htable
        exact (visible_eq_ok_iff.1 hvisible).2
      · cases htable

/-- What the statements of a scan fail with that are larger than a database allows. -/
def refusal (scan : Scan) : Fault :=
  if depth scan ≤ mostDepth then .tooManyVariables else .tooDeep

theorem fits_iff (hpos : 0 < scan.batchSize) :
    scan.Fits t ↔ depth scan ≤ mostDepth ∧ (scan.batch t none).length ≤ mostKeys scan := by
  have hlength : (scan.batch t none).length =
      min scan.batchSize.toNat (scan.window t none).length := by
    rw [Scan.batch_eq_take hpos, List.length_take]
  rw [hlength, mostKeys, mostVariables]
  constructor
  · rintro ⟨hdepth, hvariables⟩
    rw [mostVariables] at hvariables
    exact ⟨hdepth, by omega⟩
  · rintro ⟨hdepth, hkeys⟩
    refine ⟨hdepth, ?_⟩
    rw [depth, mostDepth] at hdepth
    rw [mostVariables]
    omega

/-- Whether a scan of few columns in small batches fits does not hang on the table. -/
theorem fits_of_batchSize (hdepth : scan.columns.length + 3 ≤ mostDepth)
    (hbatch : scan.batchSize.toNat + 2 * scan.columns.length ≤ mostVariables) : scan.Fits t :=
  ⟨hdepth, by omega⟩

/-- A scan that fits can fetch from the beginning. -/
theorem supplied_of_fits (hvalid : scan.Valid) (hfits : scan.Fits t) :
    scan.Supplied (fetchable scan (.ok t)) .fresh := by
  obtain ⟨hdepth, hkeys⟩ := (fits_iff hvalid.positive).1 hfits
  refine ⟨_, Scan.nextBatch_eq_ok_iff.2 ⟨t, table_of_depth hvalid hdepth, rfl, ?_⟩⟩
  intro most e hmost
  cases hmost
  exact hkeys

theorem pull_of_fits (hvalid : scan.Valid) (hfits : scan.Fits t) {c : Cursor}
    (hinside : scan.Inside t c.progress) :
    scan.pull (fetchable scan (.ok t)) c = scan.pull (.ok t) c :=
  have htable := table_of_depth hvalid hfits.depth
  Scan.pull_of_supplied htable
    (Scan.supplied_of_inside htable (supplied_of_fits hvalid hfits) hinside)

/-- A scan that does not fit fails with its first fetch. -/
theorem nextBatch_of_unfit (hvalid : scan.Valid) (hunfit : ¬ scan.Fits t) :
    scan.nextBatch (fetchable scan (.ok t)) none = .error (.unavailable .scan (refusal scan)) := by
  rw [Scan.nextBatch_eq_error_iff, table_fetchable hvalid]
  by_cases hdepth : depth scan ≤ mostDepth
  · refine .inr ⟨t, mostKeys scan, by rw [visible_of_depth hdepth]; rfl, ?_, ?_⟩
    · rw [refusal, if_pos hdepth]
      rfl
    · exact Nat.lt_of_not_le fun hkeys => hunfit ((fits_iff hvalid.positive).2 ⟨hdepth, hkeys⟩)
  · refine .inl ?_
    rw [refusal, if_neg hdepth, visible, if_neg hdepth]
    · rfl
    · exact nofun

end

/-! ## Scanners and iterations by number -/

theorem scanner_congr {h h' : Host} {i : ScannerId} (hi : i < h.scanners.length)
    (heq : h'.scanners[i]? = h.scanners[i]?) : h'.scanner i = h.scanner i := by
  rw [List.getElem?_eq_getElem hi] at heq
  simp [scanner, heq, hi]

theorem scanner_of_append {h h' : Host} {i : ScannerId} {sc : Scanner}
    (hi : i < h.scanners.length) (hscanners : h'.scanners = h.scanners ++ [sc]) :
    i < h'.scanners.length ∧ h'.scanner i = h.scanner i := by
  refine ⟨?_, scanner_congr hi (by rw [hscanners, List.getElem?_append_left hi])⟩
  rw [hscanners, List.length_append]
  exact Nat.lt_add_right _ hi

theorem iteration_congr {h h' : Host} {it : IterationId} (hit : it < h.iterations.length)
    (heq : h'.iterations[it]? = h.iterations[it]?) : h'.iteration it = h.iteration it := by
  rw [List.getElem?_eq_getElem hit] at heq
  simp [iteration, heq, hit]

theorem lt_of_iteration_scanner {h : Host} {i : ScannerId} {it : IterationId}
    (hi : i < h.scanners.length) (hit : (h.iteration it).scanner = i) :
    it < h.iterations.length := by
  rcases Nat.lt_or_ge it h.iterations.length with hlt | hge
  · exact hlt
  · rw [iteration, List.getD_eq_getElem?_getD, List.getElem?_eq_none hge] at hit
    exact absurd hit (Nat.ne_of_gt hi)

theorem SameScans.scanner {h h' : Host} (hsame : SameScans h h') {i : ScannerId}
    (hi : i < h.scanners.length) : h'.scanner i = h.scanner i :=
  scanner_congr hi (by rw [hsame.scanners])

/-! ## One pull -/

section

variable (h : Host) (it : IterationId)

/-- The scan's own part in a pull: the scan of the iteration's scanner pulls from what the
scanner's connection sees. -/
def scanPull : Pull StoreError × Cursor :=
  let sc := h.scanner (h.iteration it).scanner
  sc.scan.pull (fetchable sc.scan (h.engine.view sc.connection))
    ⟨(h.iteration it).progress, h.spent, sc.metrics⟩

theorem pull_of_closed (hclosed : (h.scanner (h.iteration it).scanner).isClosed = true) :
    h.pull it = (.ended, h.setProgress it .finished) := by
  rw [pull, if_pos hclosed]

theorem pull_answer (hopen : (h.scanner (h.iteration it).scanner).isClosed = false) :
    (h.pull it).1 = (h.scanPull it).1 := by
  rw [pull, if_neg (Bool.eq_false_iff.1 hopen)]; rfl

theorem pull_spent (hopen : (h.scanner (h.iteration it).scanner).isClosed = false) :
    (h.pull it).2.spent = (h.scanPull it).2.spent := by
  rw [pull, if_neg (Bool.eq_false_iff.1 hopen)]; rfl

theorem pull_engine (hopen : (h.scanner (h.iteration it).scanner).isClosed = false) :
    (h.pull it).2.engine =
      if hasRead (h.scanner (h.iteration it).scanner).metrics (h.scanPull it).2.metrics
          (h.scanPull it).1 then h.engine.afterRead (h.scanner (h.iteration it).scanner).connection
      else h.engine := by
  rw [pull, if_neg (Bool.eq_false_iff.1 hopen)]; rfl

theorem pull_scanners (hopen : (h.scanner (h.iteration it).scanner).isClosed = false) :
    (h.pull it).2.scanners = h.scanners.set (h.iteration it).scanner
      { h.scanner (h.iteration it).scanner with metrics := (h.scanPull it).2.metrics } := by
  rw [pull, if_neg (Bool.eq_false_iff.1 hopen)]; rfl

def pullProgress : Progress :=
  if (h.scanner (h.iteration it).scanner).isClosed then .finished
  else (h.scanPull it).2.progress

theorem pull_iterations :
    (h.pull it).2.iterations =
      h.iterations.modify it fun x => { x with progress := h.pullProgress it } := by
  unfold pull pullProgress
  dsimp only
  split <;> rfl

theorem pull_grown :
    (h.scanner (h.iteration it).scanner).scan.Grown h.spent (h.pull it).2.spent := by
  cases hopen : (h.scanner (h.iteration it).scanner).isClosed with
  | true => rw [pull_of_closed h it hopen]; exact .refl _ _
  | false => rw [pull_spent h it hopen]; exact Scan.pull_grown _ _ ⟨_, h.spent, _⟩

theorem pull_scanners_length : (h.pull it).2.scanners.length = h.scanners.length := by
  cases hopen : (h.scanner (h.iteration it).scanner).isClosed with
  | true => rw [pull_of_closed h it hopen]; rfl
  | false => rw [pull_scanners h it hopen, List.length_set]

theorem pull_iterations_length : (h.pull it).2.iterations.length = h.iterations.length := by
  rw [pull_iterations, List.length_modify]

theorem pull_scanner {i : ScannerId} (hi : i < h.scanners.length) :
    ∃ metrics, (h.pull it).2.scanner i = { h.scanner i with metrics } ∧
      (i ≠ (h.iteration it).scanner → metrics = (h.scanner i).metrics) := by
  cases hopen : (h.scanner (h.iteration it).scanner).isClosed with
  | true =>
    rw [pull_of_closed h it hopen]
    exact ⟨(h.scanner i).metrics, rfl, fun _ => rfl⟩
  | false =>
    have hset := pull_scanners h it hopen
    by_cases heq : i = (h.iteration it).scanner
    · refine ⟨(h.scanPull it).2.metrics, ?_, fun hne => absurd heq hne⟩
      rw [← heq] at hset
      simp [scanner, hset, hi]
    · refine ⟨(h.scanner i).metrics, scanner_congr hi ?_, fun _ => rfl⟩
      rw [hset, List.getElem?_set_ne (Ne.symm heq)]

theorem pull_iteration_scanner (other : IterationId) :
    ((h.pull it).2.iteration other).scanner = (h.iteration other).scanner := by
  unfold iteration
  rw [pull_iterations, pull_scanners_length, List.getD_eq_getElem?_getD,
    List.getD_eq_getElem?_getD, List.getElem?_modify]
  cases h.iterations[other]? with
  | none => rfl
  | some x => by_cases hne : it = other <;> simp [hne]

variable {it}

theorem pull_iteration_of_ne {other : IterationId} (hne : other ≠ it) :
    ((h.pull it).2.iteration other).progress = (h.iteration other).progress := by
  unfold iteration
  rw [pull_iterations, List.getD_eq_getElem?_getD, List.getD_eq_getElem?_getD,
    List.getElem?_modify]
  cases h.iterations[other]? <;> simp [Ne.symm hne]

theorem pull_iteration_self (hit : it < h.iterations.length) :
    ((h.pull it).2.iteration it).progress = h.pullProgress it := by
  unfold iteration
  rw [pull_iterations, List.getD_eq_getElem?_getD, List.getElem?_modify,
    List.getElem?_eq_getElem hit]
  simp

end

end Host

end HourlyUsage
