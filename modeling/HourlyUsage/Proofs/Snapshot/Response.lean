import HourlyUsage.Proofs.Json.Printing
import HourlyUsage.Proofs.Json.Reading
import HourlyUsage.Proofs.Snapshot.NormalForm
import HourlyUsage.Proofs.Table.Rows
import HourlyUsage.Proofs.Text.Reading
import HourlyUsage.Snapshot.Record
/-!
# What a response shows of a row

A response has the fields of the key, the total cost and those columns that the row has in its info
family. A column that is absent, one that holds a zero and one that holds an empty text are three
different things, in the row and in the response.

Sources: `from_row`, `HdfsStatsResponse` with `from_record`, its JSON text.

Hypotheses: the key of the row can be read and its owner, if it has one, is text.

Results:
* `Holds.shows`: the fields of a response.
* `Holds.readable`: they can be read back from its text.
* `Holds.alike`, `Holds.unique`: the fields tell the key and the columns of the row, and these make
  the record.
* `response_is_faithful`: all of this for any row whose key can be read.
-/
namespace HourlyUsage

namespace Column

theorem mem_all (c : Column) : c ∈ all := by
  cases c with
  | count c => cases c <;> decide
  | owner => decide

theorem mem_inResponse (c : Column) : c ∈ inResponse := by
  have hall : ∀ c ∈ all, c ∈ inResponse := by decide
  exact hall c (mem_all c)

theorem name_inj {c d : Column} (h : c.name = d.name) : c = d := by
  have hall : ∀ c ∈ all, ∀ d ∈ all, c.name = d.name → c = d := by decide
  exact hall c (mem_all c) d (mem_all d) h

end Column

/-! ## What is shown -/

def fixedFields : List Text := [text "cluster", text "bucket_start", text "path", text "total_cost"]

/-- What a column adds to the total cost: nothing if it is absent. -/
def costOf (info : Cells) (c : Count) : Int :=
  ((Assoc.get? c.name info).map Cell.decodeInt).getD 0

/-- The fields are those of a row with this key and these cells in its info family: the key, the
columns that the row has, and the total cost. -/
structure Shows (key : SnapshotKey) (info : Cells) (fields : List (Text × Json)) : Prop where
  nodup : (fields.map Prod.fst).Nodup
  names : ∀ name, name ∈ fields.map Prod.fst ↔
    name ∈ fixedFields ∨ ∃ c : Column, c.name = name ∧ (Assoc.get? c.name info).isSome
  cluster : Assoc.get? (text "cluster") fields = some (.str key.cluster)
  bucketStart : Assoc.get? (text "bucket_start") fields = some (.int key.bucketStart)
  path : Assoc.get? (text "path") fields = some (.str key.path)
  counts : ∀ (c : Count) bytes, Assoc.get? c.name info = some bytes →
    Assoc.get? c.name fields = some (.int (Cell.decodeInt bytes))
  owner : ∀ bytes t, Assoc.get? (text "owner") info = some bytes → Cell.decodeText bytes = .ok t →
    Assoc.get? (text "owner") fields = some (.str t)
  totalCost : Assoc.get? (text "total_cost") fields =
    some (.int (costOf info .accessCost + costOf info .storageCost))

/-- Both rows lack the column, or both have it with the same value. -/
def Alike (info info' : Cells) : Column → Prop
  | .count c => (Assoc.get? c.name info).map Cell.decodeInt =
      (Assoc.get? c.name info').map Cell.decodeInt
  | .owner => (Assoc.get? Column.owner.name info).map Cell.decodeText =
      (Assoc.get? Column.owner.name info').map Cell.decodeText

/-- The owner of the row, where it has one, is a text. -/
def OwnerIsText (row : Row) : Prop :=
  ∀ bytes, Assoc.get? (text "owner") (row.family infoFamily) = some bytes →
    ∃ t, Cell.decodeText bytes = .ok t

/-! ## The fields of a response -/

namespace Record

/-- The names of the fields that a response can have. -/
def fieldNames : List Text :=
  [text "cluster", text "bucket_start", text "path"] ++ Column.inResponse.map Column.name ++
    [text "total_cost"]

theorem names_responseFields (r : Record) : r.responseFields.map Prod.fst = fieldNames := by
  rw [responseFields, List.map_append, List.map_append, List.map_map]
  rfl

theorem nodup_responseFields (r : Record) : (r.responseFields.map Prod.fst).Nodup := by
  rw [names_responseFields]
  decide

theorem encodable_of_mem {r : Record} {field : Text × Json} (h : field ∈ r.responseFields) :
    Utf8.Encodable field.1 := by
  have hall : ∀ name ∈ fieldNames, Utf8.Encodable name := by decide
  exact hall field.1 (r.names_responseFields ▸ List.mem_map_of_mem h)

theorem isGiven_value (r : Record) (c : Column) (name : Text) :
    isGiven (name, r.value c) = true := by
  cases c <;> rfl

def shownFields (r : Record) : List (Text × Json) := r.responseFields.filter isGiven

theorem response_eq (r : Record) : r.response = .obj r.shownFields := rfl

/-- A field of the response, by what it is of the record. -/
inductive IsShown (r : Record) : Text × Json → Prop where
  | cluster : IsShown r (text "cluster", .str r.key.cluster)
  | bucketStart : IsShown r (text "bucket_start", .int r.key.bucketStart)
  | path : IsShown r (text "path", .str r.key.path)
  | column (c : Column) (present : r.present c = true) : IsShown r (c.name, r.value c)
  | totalCost : IsShown r (text "total_cost", .int r.totalCost)

theorem mem_shownFields {r : Record} {field : Text × Json} :
    field ∈ r.shownFields ↔ IsShown r field := by
  simp only [shownFields, responseFields, List.mem_filter, List.mem_append, List.mem_cons,
    List.mem_map, List.not_mem_nil, or_false, or_assoc, Column.mem_inResponse, true_and]
  constructor
  · rintro ⟨rfl | rfl | rfl | ⟨c, rfl⟩ | rfl, hgiven⟩
    · exact .cluster
    · exact .bucketStart
    · exact .path
    · cases hpresent : r.present c with
      | true => exact .column c hpresent
      | false => simp [hpresent, isGiven] at hgiven
    · exact .totalCost
  · rintro (_ | _ | _ | ⟨c, hpresent⟩ | _)
    · exact ⟨.inl rfl, rfl⟩
    · exact ⟨.inr (.inl rfl), rfl⟩
    · exact ⟨.inr (.inr (.inl rfl)), rfl⟩
    · exact ⟨.inr (.inr (.inr (.inl ⟨c, by simp [hpresent]⟩))), r.isGiven_value c c.name⟩
    · exact ⟨.inr (.inr (.inr (.inr rfl))), rfl⟩

theorem nodup_shownFields (r : Record) : (r.shownFields.map Prod.fst).Nodup :=
  r.nodup_responseFields.sublist (List.filter_sublist.map _)

theorem get?_shownFields {r : Record} {name : Text} {v : Json} :
    Assoc.get? name r.shownFields = some v ↔ IsShown r (name, v) :=
  (Assoc.get?_eq_some_iff r.nodup_shownFields name v).trans mem_shownFields

theorem mem_names_shownFields {r : Record} {name : Text} :
    name ∈ r.shownFields.map Prod.fst ↔
      name ∈ fixedFields ∨ ∃ c : Column, c.name = name ∧ r.present c = true := by
  simp only [List.mem_map, mem_shownFields]
  constructor
  · rintro ⟨_, _ | _ | _ | ⟨c, hpresent⟩ | _, rfl⟩
    · exact .inl (by simp [fixedFields])
    · exact .inl (by simp [fixedFields])
    · exact .inl (by simp [fixedFields])
    · exact .inr ⟨c, rfl, hpresent⟩
    · exact .inl (by simp [fixedFields])
  · rintro (hfixed | ⟨c, rfl, hpresent⟩)
    · simp only [fixedFields, List.mem_cons, List.not_mem_nil, or_false] at hfixed
      rcases hfixed with rfl | rfl | rfl | rfl
      · exact ⟨_, .cluster, rfl⟩
      · exact ⟨_, .bucketStart, rfl⟩
      · exact ⟨_, .path, rfl⟩
      · exact ⟨_, .totalCost, rfl⟩
    · exact ⟨_, .column c hpresent, rfl⟩

/-- A column is shown exactly if the row has it, since no other field has its name. -/
theorem present_iff {r : Record} {c : Column} :
    r.present c = true ↔ c.name ∈ r.shownFields.map Prod.fst := by
  have hother : ∀ c ∈ Column.all, c.name ∉ fixedFields := by decide
  rw [mem_names_shownFields]
  constructor
  · exact fun hpresent => .inr ⟨c, rfl, hpresent⟩
  · rintro (hfixed | ⟨d, hname, hpresent⟩)
    · exact absurd hfixed (hother c c.mem_all)
    · exact Column.name_inj hname ▸ hpresent

theorem get?_column {r : Record} {c : Column} (hpresent : r.present c = true) :
    Assoc.get? c.name r.shownFields = some (r.value c) :=
  get?_shownFields.2 (.column c hpresent)

/-! ## The record of a row -/

/-- The record is that of a row with this key and these cells in its info family. -/
structure Holds (key : SnapshotKey) (info : Cells) (r : Record) : Prop where
  key : r.key = key
  counts : ∀ c : Count, r.count c = Cell.intColumn info c.name
  owner : Cell.textColumn info Column.owner.name = .ok r.owner
  present : ∀ c : Column, r.present c = (Assoc.get? c.name info).isSome

variable {key key' : SnapshotKey} {row row' : Row} {info info' : Cells} {r r' : Record}

theorem holds_of_ofRow (h : ofRow key row = .ok r) : Holds key (row.family infoFamily) r := by
  rw [ofRow] at h
  cases howner : Cell.textColumn (row.family infoFamily) Column.owner.name with
  | error e =>
    rw [howner] at h
    cases h
  | ok owner =>
    rw [howner] at h
    obtain rfl := Except.ok.inj h
    exact ⟨rfl, fun _ => rfl, howner, fun _ => rfl⟩

theorem exists_ofRow (key : SnapshotKey) (howner : OwnerIsText row) :
    ∃ r, ofRow key row = .ok r := by
  rw [ofRow, Cell.textColumn]
  cases hcell : Assoc.get? Column.owner.name (row.family infoFamily) with
  | none => exact ⟨_, rfl⟩
  | some bytes =>
    obtain ⟨t, ht⟩ := howner bytes hcell
    dsimp only
    rw [ht]
    exact ⟨_, rfl⟩

theorem intColumn_eq (info : Cells) (c : Count) : Cell.intColumn info c.name = costOf info c := by
  rw [Cell.intColumn, costOf]
  cases Assoc.get? c.name info <;> rfl

theorem textColumn_eq (info : Cells) : Cell.textColumn info Column.owner.name =
    ((Assoc.get? Column.owner.name info).map Cell.decodeText).getD (.ok []) := by
  rw [Cell.textColumn]
  cases Assoc.get? Column.owner.name info <;> rfl

/-- The fields of a response. -/
theorem Holds.shows (h : Holds key info r) : Shows key info r.shownFields where
  nodup := r.nodup_shownFields
  names name := by
    simp only [mem_names_shownFields, h.present]
  cluster := get?_shownFields.2 (h.key ▸ .cluster)
  bucketStart := get?_shownFields.2 (h.key ▸ .bucketStart)
  path := get?_shownFields.2 (h.key ▸ .path)
  counts c bytes hcell := by
    have hpresent : r.present (.count c) = true := by
      rw [h.present]
      exact Option.isSome_of_eq_some hcell
    have hcount : r.count c = Cell.decodeInt bytes := by rw [h.counts, Cell.intColumn, hcell]
    exact hcount ▸ get?_column hpresent
  owner bytes t hcell htext := by
    have hpresent : r.present .owner = true := by
      rw [h.present]
      exact Option.isSome_of_eq_some hcell
    have howner := h.owner
    rw [Cell.textColumn, show Assoc.get? Column.owner.name info = some bytes from hcell] at howner
    obtain rfl := Except.ok.inj (htext.symm.trans howner)
    exact get?_column hpresent
  totalCost := by
    have htotal : r.totalCost = costOf info .accessCost + costOf info .storageCost := by
      rw [totalCost, h.counts, h.counts, intColumn_eq, intColumn_eq]
    exact get?_shownFields.2 (htotal ▸ .totalCost)

theorem Holds.owner_encodable (h : Holds key info r) : Utf8.Encodable r.owner := by
  have howner := h.owner
  rw [Cell.textColumn] at howner
  cases hcell : Assoc.get? Column.owner.name info with
  | none =>
    rw [hcell] at howner
    rw [← Except.ok.inj howner]
    exact ⟨[], rfl⟩
  | some bytes =>
    rw [hcell] at howner
    exact ⟨bytes, Utf8.decode_eq_ok_iff.1 howner⟩

/-! ## Texts of responses -/

theorem Holds.readable (h : Holds key info r) (hcluster : Utf8.Encodable key.cluster)
    (hpath : Utf8.Encodable key.path) {limit? : Option Nat}
    (hfits : ∀ name n, (name, .int n) ∈ r.shownFields →
      ∀ most ∈ limit?, Json.digitCount n ≤ most) :
    Json.Readable limit? r.response := by
  rw [response_eq]
  refine .obj r.nodup_shownFields ?_ ?_
  · exact fun field hfield => encodable_of_mem (List.mem_filter.1 hfield).1
  · intro field hfield
    cases mem_shownFields.1 hfield with
    | cluster => exact .str (h.key ▸ hcluster)
    | bucketStart => exact .int (hfits _ _ hfield)
    | path => exact .str (h.key ▸ hpath)
    | column c hpresent =>
      cases c with
      | count c => exact .int (hfits _ _ hfield)
      | owner => exact .str h.owner_encodable
    | totalCost => exact .int (hfits _ _ hfield)

theorem Holds.readable_none (h : Holds key info r) (hcluster : Utf8.Encodable key.cluster)
    (hpath : Utf8.Encodable key.path) : Json.Readable none r.response :=
  h.readable hcluster hpath fun _ _ _ _ hmost => nomatch hmost

/-! ## Rows with one response -/

theorem Holds.count_cell (h : Holds key info r) (c : Count) :
    (Assoc.get? c.name info).map Cell.decodeInt =
      if r.present (.count c) then some (r.count c) else none := by
  rw [h.present, h.counts, Cell.intColumn, Column.name]
  cases Assoc.get? c.name info <;> rfl

theorem Holds.owner_cell (h : Holds key info r) :
    (Assoc.get? Column.owner.name info).map Cell.decodeText =
      if r.present .owner then some (.ok r.owner) else none := by
  rw [h.present, ← h.owner, Cell.textColumn]
  cases Assoc.get? Column.owner.name info <;> rfl

/-- Equal fields come of equal keys and of columns that are alike. -/
theorem Holds.alike (h : Holds key info r) (h' : Holds key' info' r')
    (hsame : r.shownFields = r'.shownFields) : key = key' ∧ ∀ c, Alike info info' c := by
  have hpresent : ∀ c, r.present c = r'.present c := fun c => by
    rw [Bool.eq_iff_iff, present_iff, present_iff, hsame]
  have hvalue : ∀ c, r.present c = true → r.value c = r'.value c := fun c hc => by
    have hshown := get?_column hc
    rw [hsame, get?_column (hpresent c ▸ hc)] at hshown
    exact (Option.some.inj hshown).symm
  constructor
  · have hshown := h.shows
    have hshown' := h'.shows
    rw [← hsame] at hshown'
    have hcluster := hshown.cluster.symm.trans hshown'.cluster
    have hbucket := hshown.bucketStart.symm.trans hshown'.bucketStart
    have hpath := hshown.path.symm.trans hshown'.path
    cases key
    cases key'
    simp_all [Json.int]
  · intro c
    cases c with
    | count c =>
      rw [Alike, h.count_cell, h'.count_cell, hpresent]
      split
      · next hc =>
        have hcount := hvalue (.count c) ((hpresent _).trans hc)
        rw [Json.Number.whole.inj (Json.number.inj hcount)]
      · rfl
    | owner =>
      rw [Alike, h.owner_cell, h'.owner_cell, hpresent]
      split
      · next hc => rw [Json.str.inj (hvalue .owner ((hpresent _).trans hc))]
      · rfl

theorem isSome_of_alike {c : Column} (h : Alike info info' c) :
    (Assoc.get? c.name info).isSome = (Assoc.get? c.name info').isSome := by
  cases c with
  | count c => simpa [Column.name] using congrArg Option.isSome h
  | owner => simpa using congrArg Option.isSome h

/-- Equal keys and columns that are alike make equal records. -/
theorem Holds.unique (h : Holds key info r) (h' : Holds key info' r')
    (halike : ∀ c, Alike info info' c) : r = r' := by
  have hcount : r.count = r'.count := funext fun c => by
    have hc : _ = _ := halike (.count c)
    rw [h.counts, h'.counts, intColumn_eq, intColumn_eq, costOf, costOf, hc]
  have howner : r.owner = r'.owner := by
    have hc : _ = _ := halike .owner
    have hread := h.owner.symm.trans (textColumn_eq info)
    rw [hc, ← textColumn_eq, h'.owner] at hread
    exact Except.ok.inj hread
  have hpresent : r.present = r'.present := funext fun c => by
    rw [h.present, h'.present, isSome_of_alike (halike c)]
  calc r = ⟨r.key, r.count, r.owner, r.present⟩ := rfl
    _ = ⟨r'.key, r'.count, r'.owner, r'.present⟩ := by
      rw [h.key, h'.key, hcount, howner, hpresent]
    _ = r' := rfl

end Record

/-! ## Rows with decodable keys -/

/-- **Responses are faithful.** A row whose key can be read, and whose owner is a text where it has
one, has a record. The response for it is written without a control below U+0020, whatever stands
in the cells; read back, it is an object with exactly the fields of the key, the total cost and the
columns that the row has, and with their values. A reader that takes whole numbers of so many digits
only reads the same, if there are no longer ones. Another row has a response of the same text
exactly if its key is read as the same snapshot and it has the same columns with the same values. -/
theorem response_is_faithful {row : Row} {key : SnapshotKey}
    (hkey : SnapshotKey.decode row.key = .ok key) (howner : OwnerIsText row) :
    ∃ r, Record.ofRow key row = .ok r ∧
      r.response.compact.OneLine ∧
      (∃ fields, Shows key (row.family infoFamily) fields ∧
        Json.parseWithin none r.response.compact = .ok (.obj fields) ∧
        ∀ most, (∀ name n, (name, .int n) ∈ fields → Json.digitCount n ≤ most) →
          Json.parseWithin (some most) r.response.compact = .ok (.obj fields)) ∧
      ∀ row' key' r', SnapshotKey.decode row'.key = .ok key' → Record.ofRow key' row' = .ok r' →
        (r'.response.compact = r.response.compact ↔
          key' = key ∧ ∀ c, Alike (row'.family infoFamily) (row.family infoFamily) c) := by
  obtain ⟨r, hrecord⟩ := Record.exists_ofRow key howner
  have hencodable : ∀ {row : Row} {key}, SnapshotKey.decode row.key = .ok key →
      Utf8.Encodable key.cluster ∧ Utf8.Encodable key.path := by
    intro row key hkey
    obtain ⟨numeral, hspells, -⟩ := SnapshotKey.decode_eq_ok_iff.1 hkey
    exact hspells.encodable
  obtain ⟨hcluster, hpath⟩ := hencodable hkey
  have hholds := Record.holds_of_ofRow hrecord
  have hreadable := hholds.readable_none hcluster hpath
  refine ⟨r, hrecord, Json.oneLine_compact _, ⟨r.shownFields, hholds.shows, ?_, ?_⟩, ?_⟩
  · exact Json.parseWithin_compact hreadable
  · intro most hfits
    refine Json.parseWithin_compact (hholds.readable hcluster hpath ?_)
    intro name n hmem most' hmost
    obtain rfl := Option.some.inj hmost
    exact hfits name n hmem
  · intro row' key' r' hkey' hrecord'
    obtain ⟨hcluster', hpath'⟩ := hencodable hkey'
    have hholds' := Record.holds_of_ofRow hrecord'
    rw [Json.compact_inj (hholds'.readable_none hcluster' hpath') hreadable]
    constructor
    · exact fun hsame => hholds'.alike hholds (Json.obj.inj hsame)
    · rintro ⟨rfl, halike⟩
      rw [hholds'.unique hholds halike]

/-- A row with a count of zero, a negative cost and an empty owner, whose path holds a line feed and
a quotation mark. -/
def shownRow : Row where
  key := Utf8.points (text "7!c1!/a\n\"")
  families := [(text "x", [(text "quota", [0x01])]),
    (infoFamily, [(text "file_count", [0x00]), (text "access_cost", [0xFF]), (text "owner", [])])]

def shownKey : SnapshotKey := ⟨maxBucketStart - 7, text "c1", text "/a\n\""⟩

theorem shownRow_is_shown :
    SnapshotKey.decode shownRow.key = .ok shownKey ∧ OwnerIsText shownRow ∧
    ∃ r fields, Record.ofRow shownKey shownRow = .ok r ∧
      Json.parseWithin none r.response.compact = .ok (.obj fields) ∧
      Assoc.get? (text "path") fields = some (.str (text "/a\n\"")) ∧
      Assoc.get? (text "file_count") fields = some (.int 0) ∧
      Assoc.get? (text "owner") fields = some (.str []) ∧
      Assoc.get? (text "total_cost") fields = some (.int (-1)) ∧
      text "quota" ∉ fields.map Prod.fst := by
  have hkey : SnapshotKey.decode shownRow.key = .ok shownKey := by rfl
  have howner : OwnerIsText shownRow := by
    intro bytes hcell
    obtain rfl := Option.some.inj hcell
    exact ⟨[], rfl⟩
  obtain ⟨r, hrecord, -, ⟨fields, hshows, hread, -⟩, -⟩ := response_is_faithful hkey howner
  refine ⟨hkey, howner, r, fields, hrecord, hread, hshows.path,
    hshows.counts .fileCount _ rfl, hshows.owner _ _ rfl rfl, hshows.totalCost, ?_⟩
  rw [hshows.names]
  rintro (hfixed | ⟨c, hname, hcell⟩)
  · exact absurd hfixed (by decide)
  · rw [hname] at hcell
    exact absurd hcell (by decide)

end HourlyUsage
