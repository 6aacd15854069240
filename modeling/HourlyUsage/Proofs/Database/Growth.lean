import HourlyUsage.Proofs.Database.Writing
import HourlyUsage.Proofs.Disk
import HourlyUsage.Proofs.Table.Rows
/-!
# Tables only grow

Apart from the removal of the whole table, nothing that a connection can do takes a cell away from
another connection or from itself: what an open connection sees stays there, whatever is read,
written, left unfinished, committed or closed in between. `Engine.Sound` is what the transactions of
all connections have to do with the committed states for this to hold.

Sources: the statements of `bootstrap`, `put_row` and `_fetch_batch`, `_create_connection`,
`_close_connection`.

Results:
* `DiffersAt.preserves`: what a connection may turn its own transaction into.
* `preserves_commit`, `preserves_close`, `preserves_connect`, `preserves_afterRead`: no small
  operation takes a cell away.
* `preserves_put`, `preserves_ensureTable`: neither does a write, also one that fails, or the making
  of the table.
-/
namespace HourlyUsage

namespace Table

/-- Every cell of the table is there in the other one, perhaps with another value. -/
def Within (t t' : Table) : Prop :=
  ∀ key family qualifier, (t.cell? key family qualifier).isSome = true →
    (t'.cell? key family qualifier).isSome = true

theorem Within.refl (t : Table) : t.Within t := fun _ _ _ h => h

theorem Within.trans {a b c : Table} (h : a.Within b) (h' : b.Within c) : a.Within c :=
  fun key family qualifier hcell => h' key family qualifier (h key family qualifier hcell)

theorem within_put (t : Table) (key : Bytes) (family qualifier : Text) (value : Bytes) :
    t.Within (t.put key family qualifier value) := by
  intro key' family' qualifier' hcell
  rw [cell?_put]
  split
  · rfl
  · exact hcell

theorem within_putAll (t : Table) (key : Bytes) (family : Text) (cells : Cells) :
    t.Within (t.putAll key family cells) := by
  induction cells generalizing t with
  | nil => exact .refl t
  | cons cell rest ih =>
    rw [putAll_cons]
    exact (t.within_put key family cell.1 cell.2).trans (ih _)

theorem Within.exists_row {t t' : Table} (h : t.Within t') {columns : List (Text × Text)}
    {row : Row} (hrow : row ∈ t.rows columns) : ∃ row' ∈ t'.rows columns, row'.key = row.key := by
  obtain ⟨f, q, v, hrequested, hcell⟩ := (t.exists_row_iff columns row.key).1 ⟨row, hrow, rfl⟩
  have hthere := h row.key f q (by rw [hcell]; rfl)
  obtain ⟨v', hv'⟩ := Option.isSome_iff_exists.1 hthere
  exact (t'.exists_row_iff columns row.key).2 ⟨f, q, v', hrequested, hv'⟩

end Table

/-- What a connection sees at a later time: all cells are still there, unless it has been closed. -/
structure Later (seen now : Except Fault Table) : Prop where
  closed : seen = .error .closed → now = .error .closed
  grown : ∀ t, seen = .ok t → now = .error .closed ∨ ∃ t', now = .ok t' ∧ t.Within t'

theorem Later.refl (seen : Except Fault Table) : Later seen seen :=
  ⟨id, fun t h => .inr ⟨t, h, .refl t⟩⟩

theorem Later.trans {a b c : Except Fault Table} (h : Later a b) (h' : Later b c) : Later a c where
  closed hclosed := h'.closed (h.closed hclosed)
  grown t ht := by
    rcases h.grown t ht with hclosed | ⟨t', ht', hwithin⟩
    · exact .inl (h'.closed hclosed)
    · rcases h'.grown t' ht' with hclosed | ⟨t'', ht'', hwithin'⟩
      · exact .inl hclosed
      · exact .inr ⟨t'', ht'', hwithin.trans hwithin'⟩

/-- What a transaction holds goes together with the committed state: a snapshot is an older or the
current state of the table, and work in progress has the cells of the current one. -/
def Transaction.Fits (d : Database) : Transaction → Prop
  | idle => True
  | begun => True
  | reading snapshot version =>
    ∃ t, d.cells = some t ∧ snapshot.Within t ∧ version ≤ d.version ∧
      (version = d.version → snapshot = t)
  | writing work => ∀ t, d.cells = some t → ∃ t', work = some t' ∧ t.Within t'

/-- What a connection sees is there in a later state, unless it is in the middle of a write. -/
theorem Transaction.view_later {d d' : Database} {tr : Transaction}
    (hquiet : tr.isWriting = false) {t : Table} (hview : tr.view d = some t)
    (hgrown : ∀ t, d.cells = some t → ∃ t', d'.cells = some t' ∧ t.Within t') :
    ∃ t', tr.view d' = some t' ∧ t.Within t' := by
  cases tr with
  | idle => exact hgrown t hview
  | begun => exact hgrown t hview
  | reading snapshot version => exact ⟨t, hview, .refl t⟩
  | writing work => cases hquiet

theorem Transaction.Fits.later {d d' : Database} {tr : Transaction} (hfits : tr.Fits d)
    (hquiet : tr.isWriting = false) (hversion : d.version < d'.version)
    (hgrown : ∀ t, d.cells = some t → ∃ t', d'.cells = some t' ∧ t.Within t') : tr.Fits d' := by
  cases tr with
  | idle => exact True.intro
  | begun => exact True.intro
  | reading snapshot version =>
    obtain ⟨t, ht, hwithin, hle, -⟩ := hfits
    obtain ⟨t', ht', hwithin'⟩ := hgrown t ht
    exact ⟨t', ht', hwithin.trans hwithin', Nat.le_of_lt (Nat.lt_of_le_of_lt hle hversion),
      fun heq => absurd (heq ▸ hle) (Nat.not_le_of_lt hversion)⟩
  | writing work => cases hquiet

namespace Engine

/-- Databases, files, connections and transactions belong together. -/
structure Sound (e : Engine) : Prop where
  /-- Every file is one of the databases. -/
  files : ∀ p d, e.disk.node? p = some (.database d) → d < e.databases.length
  databases : ∀ c < e.connections.length, (e.connection c).database < e.databases.length
  /-- A closed connection is in the middle of nothing. -/
  closed : ∀ c, (e.connection c).isOpen = false → (e.connection c).transaction = .idle
  /-- At most one connection of a database is writing. -/
  alone : ∀ c c', (e.connection c).transaction.isWriting = true →
    (e.connection c').transaction.isWriting = true →
    (e.connection c).database = (e.connection c').database → c = c'
  fits : ∀ c, (e.connection c).transaction.Fits (e.databaseOf c)

/-- What the connections of an engine saw they see later too, as long as they stay open. -/
structure Grows (e e' : Engine) : Prop where
  closed : ∀ c < e.connections.length, (e.connection c).isOpen = false →
    (e'.connection c).isOpen = false
  length : e.connections.length ≤ e'.connections.length
  sees : ∀ c t, e.view c = .ok t → (e'.connection c).isOpen = true →
    ∃ t', e'.view c = .ok t' ∧ t.Within t'

theorem Grows.refl (e : Engine) : e.Grows e where
  closed _ _ h := h
  length := Nat.le_refl _
  sees _ t h _ := ⟨t, h, .refl t⟩

variable {e e' : Engine} {c : ConnectionId}

theorem lt_of_isOpen (h : (e.connection c).isOpen = true) : c < e.connections.length := by
  rcases Nat.lt_or_ge c e.connections.length with hlt | hge
  · exact hlt
  · rw [connection_of_ge hge] at h; cases h

theorem lt_of_view {t : Table} (h : e.view c = .ok t) : c < e.connections.length :=
  lt_of_isOpen (view_eq_ok_iff.1 h).1

theorem Grows.trans {e'' : Engine} (h : e.Grows e') (h' : e'.Grows e'') : e.Grows e'' where
  closed c hc hclosed := h'.closed c (Nat.lt_of_lt_of_le hc h.length) (h.closed c hc hclosed)
  length := Nat.le_trans h.length h'.length
  sees c t hview hopen := by
    have hc := Nat.lt_of_lt_of_le (lt_of_view hview) h.length
    have hbetween : (e'.connection c).isOpen = true := by
      cases hb : (e'.connection c).isOpen with
      | true => rfl
      | false => rw [h'.closed c hc hb] at hopen; cases hopen
    obtain ⟨t', hview', hwithin⟩ := h.sees c t hview hbetween
    obtain ⟨t'', hview'', hwithin'⟩ := h'.sees c t' hview' hopen
    exact ⟨t'', hview'', hwithin.trans hwithin'⟩

theorem view_of_closed (h : (e.connection c).isOpen = false) : e.view c = .error .closed := by
  rw [view, h]
  rfl

theorem Grows.later (h : e.Grows e') (hc : c < e.connections.length) :
    Later (e.view c) (e'.view c) where
  closed hclosed := by
    cases hopen : (e.connection c).isOpen with
    | false => exact view_of_closed (h.closed c hc hopen)
    | true =>
      unfold view at hclosed
      dsimp only at hclosed
      rw [hopen] at hclosed
      split at hclosed
      · next hnot => cases hnot
      · split at hclosed <;> cases hclosed
  grown t ht := by
    cases hopen : (e'.connection c).isOpen with
    | false => exact .inl (view_of_closed hopen)
    | true => exact .inr (h.sees c t ht hopen)

def Preserves (e e' : Engine) : Prop := e.Sound → e'.Sound ∧ e.Grows e'

theorem Preserves.refl (e : Engine) : e.Preserves e := fun hs => ⟨hs, .refl e⟩

theorem Preserves.trans {e'' : Engine} (h : e.Preserves e') (h' : e'.Preserves e'') :
    e.Preserves e'' := fun hs =>
  ⟨(h' (h hs).1).1, (h hs).2.trans (h' (h hs).1).2⟩

/-! ## One connection -/

/-- Only one connection is different, and it still belongs to its database. -/
structure DiffersAt (e e' : Engine) (c : ConnectionId) : Prop where
  disk : e'.disk = e.disk
  databases : e'.databases = e.databases
  length : e'.connections.length = e.connections.length
  others : ∀ x, x ≠ c → e'.connection x = e.connection x
  database : (e'.connection c).database = (e.connection c).database

theorem DiffersAt.databaseOf (h : e.DiffersAt e' c) (x : ConnectionId) :
    e'.databaseOf x = e.databaseOf x := by
  have hdatabase : (e'.connection x).database = (e.connection x).database := by
    by_cases hx : x = c
    · rw [hx]; exact h.database
    · rw [h.others x hx]
  simp only [Engine.databaseOf, hdatabase, Engine.database, h.databases]

theorem DiffersAt.view (h : e.DiffersAt e' c) {x : ConnectionId} (hx : x ≠ c) :
    e'.view x = e.view x := by
  rw [Engine.view, Engine.view, h.databaseOf, h.others x hx]

/-- What a connection may turn its own transaction into. -/
theorem DiffersAt.preserves (h : e.DiffersAt e' c)
    (hclosed : (e.connection c).isOpen = false → (e'.connection c).isOpen = false)
    (hidle : (e'.connection c).isOpen = false → (e'.connection c).transaction = .idle)
    (hfits : (e'.connection c).transaction.Fits (e.databaseOf c))
    (halone : (e'.connection c).transaction.isWriting = true → ∀ x, x ≠ c →
      (e.connection x).database = (e.connection c).database →
      (e.connection x).transaction.isWriting = false)
    (hsees : ∀ t, e.view c = .ok t → (e'.connection c).isOpen = true →
      ∃ t', e'.view c = .ok t' ∧ t.Within t') : e.Preserves e' := by
  intro hs
  have hdatabase : ∀ x, (e'.connection x).database = (e.connection x).database := by
    intro x
    by_cases hx : x = c
    · rw [hx]; exact h.database
    · rw [h.others x hx]
  have hnone : ∀ x, x ≠ c → (e'.connection x).transaction.isWriting = true →
      (e'.connection c).transaction.isWriting = true →
      (e'.connection x).database = (e'.connection c).database → False := by
    intro x hx hwx hwc hd
    rw [hdatabase, hdatabase] at hd
    rw [h.others x hx, halone hwc x hx hd] at hwx
    cases hwx
  refine ⟨⟨?_, ?_, ?_, ?_, ?_⟩, ⟨?_, Nat.le_of_eq h.length.symm, ?_⟩⟩
  · rw [h.disk, h.databases]; exact hs.files
  · intro x hx
    rw [hdatabase, h.databases]; exact hs.databases x (h.length ▸ hx)
  · intro x hclosedx
    by_cases hx : x = c
    · rw [hx] at hclosedx ⊢; exact hidle hclosedx
    · rw [h.others x hx] at hclosedx ⊢; exact hs.closed x hclosedx
  · intro x y hwx hwy hd
    by_cases hx : x = c
    · by_cases hy : y = c
      · rw [hx, hy]
      · exact (hnone y hy hwy (hx ▸ hwx) (hx ▸ hd.symm)).elim
    · by_cases hy : y = c
      · exact (hnone x hx hwx (hy ▸ hwy) (hy ▸ hd)).elim
      · rw [h.others x hx] at hwx hd
        rw [h.others y hy] at hwy hd
        exact hs.alone x y hwx hwy hd
  · intro x
    rw [h.databaseOf]
    by_cases hx : x = c
    · rw [hx]; exact hfits
    · rw [h.others x hx]; exact hs.fits x
  · intro x _ hclosedx
    by_cases hx : x = c
    · rw [hx] at hclosedx ⊢; exact hclosed hclosedx
    · rw [h.others x hx]; exact hclosedx
  · intro x t hview hopen
    by_cases hx : x = c
    · rw [hx] at hview hopen ⊢; exact hsees t hview hopen
    · exact ⟨t, (h.view hx).trans hview, .refl t⟩

theorem differsAt_setTransaction (hc : c < e.connections.length) (tr : Transaction) :
    e.DiffersAt (e.setTransaction c tr) c where
  disk := rfl
  databases := rfl
  length := length_setTransaction tr
  others _ hx := connection_setTransaction_of_ne hx tr
  database := by rw [connection_setTransaction hc]

theorem view_setTransaction (hopen : (e.connection c).isOpen = true) {tr : Transaction} {t : Table}
    (h : tr.view (e.databaseOf c) = some t) : (e.setTransaction c tr).view c = .ok t := by
  have hc := lt_of_isOpen hopen
  rw [view_eq_ok_iff, (differsAt_setTransaction hc tr).databaseOf, connection_setTransaction hc]
  exact ⟨hopen, h⟩

theorem preserves_setTransaction (hopen : (e.connection c).isOpen = true) {tr : Transaction}
    (hfits : tr.Fits (e.databaseOf c))
    (halone : tr.isWriting = true → ∀ x, x ≠ c →
      (e.connection x).database = (e.connection c).database →
      (e.connection x).transaction.isWriting = false)
    (hsees : ∀ t, (e.connection c).transaction.view (e.databaseOf c) = some t →
      ∃ t', tr.view (e.databaseOf c) = some t' ∧ t.Within t') :
    e.Preserves (e.setTransaction c tr) := by
  have hc := lt_of_isOpen hopen
  have hself := connection_setTransaction hc tr
  refine (differsAt_setTransaction hc tr).preserves ?_ ?_ ?_ ?_ ?_
  · intro h
    rw [hself]; exact h
  · intro h
    rw [hself, hopen] at h; cases h
  · rw [hself]; exact hfits
  · rw [hself]; exact halone
  · intro t hview _
    obtain ⟨hopen, hsaw⟩ := view_eq_ok_iff.1 hview
    obtain ⟨t', ht', hwithin⟩ := hsees t hsaw
    exact ⟨t', view_setTransaction hopen ht', hwithin⟩

theorem connection_close (c : ConnectionId) :
    (e.close c).connection c = { e.connection c with isOpen := false, transaction := .idle } := by
  rcases Nat.lt_or_ge c e.connections.length with hc | hc
  · simp [close, connection, hc]
  · rw [connection_of_ge hc, connection_of_ge (by simpa [close] using hc)]

theorem connection_close_of_ne {x : ConnectionId} (hx : x ≠ c) :
    (e.close c).connection x = e.connection x := by
  simp [close, connection, Ne.symm hx]

theorem preserves_close (c : ConnectionId) : e.Preserves (e.close c) := by
  have hself := connection_close (e := e) c
  have hdiffers : e.DiffersAt (e.close c) c :=
    ⟨rfl, rfl, List.length_modify .., fun x hx => connection_close_of_ne hx, by rw [hself]⟩
  refine hdiffers.preserves ?_ ?_ ?_ ?_ ?_
  · intro _
    rw [hself]
  · intro _
    rw [hself]
  · rw [hself]; exact True.intro
  · intro h
    rw [hself] at h; cases h
  · intro t _ hopen
    rw [hself] at hopen; cases hopen

/-! ## Reading, starting and committing -/

theorem lt_of_transaction (h : (e.connection c).transaction ≠ .idle) :
    c < e.connections.length := by
  rcases Nat.lt_or_ge c e.connections.length with hlt | hge
  · exact hlt
  · rw [connection_of_ge hge] at h; exact absurd rfl h

theorem preserves_start (hopen : (e.connection c).isOpen = true) :
    e.Preserves (e.setTransaction c (e.connection c).transaction.start) := by
  by_cases htr : (e.connection c).transaction = .idle
  · rw [htr]
    refine preserves_setTransaction hopen True.intro (fun h => nomatch h) ?_
    intro t ht
    rw [htr] at ht
    exact ⟨t, ht, .refl t⟩
  · rw [start_of_ne_idle htr, setTransaction_self]
    exact .refl e

theorem Sound.isOpen (hs : e.Sound) (h : (e.connection c).transaction ≠ .idle) :
    (e.connection c).isOpen = true := by
  cases hopen : (e.connection c).isOpen with
  | true => rfl
  | false => exact absurd (hs.closed c hopen) h

/-- A read fixes the committed state at most. -/
theorem preserves_afterRead (c : ConnectionId) : e.Preserves (e.afterRead c) := by
  intro hs
  unfold afterRead
  cases htr : (e.connection c).transaction with
  | begun =>
    have hopen := hs.isOpen (c := c) (by rw [htr]; exact nofun)
    cases hcells : (e.databaseOf c).cells with
    | none =>
      rw [Transaction.read, hcells]
      dsimp only
      rw [← htr, setTransaction_self]
      exact ⟨hs, .refl e⟩
    | some t =>
      rw [Transaction.read, hcells]
      refine preserves_setTransaction hopen ⟨t, hcells, .refl t, Nat.le_refl _, fun _ => rfl⟩
        (fun h => absurd h Bool.false_ne_true) ?_ hs
      intro t' ht'
      rw [htr] at ht'
      exact ⟨t', hcells.symm.trans ht', .refl t'⟩
  | _ =>
    dsimp only [Transaction.read]
    rw [← htr, setTransaction_self]
    exact ⟨hs, .refl e⟩

theorem commit_of_writing {work : Option Table} (h : (e.connection c).transaction = .writing work) :
    e.commit c = e.committed c work := by
  have hc : c < e.connections.length := lt_of_transaction (by rw [h]; exact nofun)
  rw [← commit_writing hc, ← h, setTransaction_self]

structure CommitsAt (e e' : Engine) (c : ConnectionId) (work : Option Table) : Prop where
  disk : e'.disk = e.disk
  databases : e'.databases.length = e.databases.length
  length : e'.connections.length = e.connections.length
  self : e'.connection c = { e.connection c with transaction := .idle }
  others : ∀ x, x ≠ c → e'.connection x = e.connection x
  here : ∀ x, (e.connection x).database = (e.connection c).database →
    e'.databaseOf x = ⟨work, (e.databaseOf x).version + 1⟩
  elsewhere : ∀ x, (e.connection x).database ≠ (e.connection c).database →
    e'.databaseOf x = e.databaseOf x

theorem commitsAt (hc : c < e.connections.length)
    (hd : (e.connection c).database < e.databases.length) (work : Option Table) :
    e.CommitsAt (e.committed c work) c work := by
  unfold committed
  generalize hbetween : e.setDatabase (e.connection c).database
    ⟨work, (e.databaseOf c).version + 1⟩ = between
  have hlength : c < between.connections.length := by rw [← hbetween]; exact hc
  have hold : ∀ x, between.connection x = e.connection x := by intro x; rw [← hbetween]; rfl
  have hself := connection_setTransaction hlength .idle
  rw [hold c] at hself
  have hother : ∀ x, x ≠ c → (between.setTransaction c .idle).connection x = e.connection x :=
    fun x hx => (connection_setTransaction_of_ne hx .idle).trans (hold x)
  have hdatabaseOf : ∀ x, (between.setTransaction c .idle).databaseOf x =
      between.database (e.connection x).database := by
    intro x
    rw [databaseOf, database_setTransaction]
    by_cases hx : x = c
    · rw [hx, hself]
    · rw [hother x hx]
  refine ⟨?_, ?_, ?_, hself, hother, ?_, ?_⟩
  · rw [← hbetween]; rfl
  · rw [databases_setTransaction, ← hbetween, length_setDatabase]
  · rw [length_setTransaction, ← hbetween]; rfl
  · intro x hx
    rw [hdatabaseOf, hx, ← hbetween, database_setDatabase hd, databaseOf, databaseOf, hx]
  · intro x hx
    rw [hdatabaseOf, ← hbetween, database_setDatabase_of_ne hx]; rfl

theorem CommitsAt.database {work : Option Table} (h : e.CommitsAt e' c work) (x : ConnectionId) :
    (e'.connection x).database = (e.connection x).database := by
  by_cases hx : x = c
  · rw [hx, h.self]
  · rw [h.others x hx]

theorem CommitsAt.grown {work : Option Table} (h : e.CommitsAt e' c work) (hs : e.Sound)
    (hc : (e.connection c).transaction = .writing work) (x : ConnectionId) {t : Table}
    (ht : (e.databaseOf x).cells = some t) :
    ∃ t', (e'.databaseOf x).cells = some t' ∧ t.Within t' := by
  by_cases hx : (e.connection x).database = (e.connection c).database
  · have hfits := hs.fits c
    rw [hc] at hfits
    rw [h.here x hx]
    exact hfits t (by rw [databaseOf, ← hx]; exact ht)
  · rw [h.elsewhere x hx]
    exact ⟨t, ht, .refl t⟩

theorem CommitsAt.sound {work : Option Table} (h : e.CommitsAt e' c work) (hs : e.Sound)
    (hc : (e.connection c).transaction = .writing work) : e'.Sound where
  files := by rw [h.disk, h.databases]; exact hs.files
  databases x hx := by rw [h.database, h.databases]; exact hs.databases x (h.length ▸ hx)
  closed x hclosed := by
    by_cases hx : x = c
    · rw [hx, h.self]
    · rw [h.others x hx] at hclosed ⊢; exact hs.closed x hclosed
  alone x y hx hy hxy := by
    have hne : ∀ z, (e'.connection z).transaction.isWriting = true → z ≠ c := by
      rintro z hz rfl
      rw [h.self] at hz
      cases hz
    have hold : ∀ z, (e'.connection z).transaction.isWriting = true →
        (e.connection z).transaction.isWriting = true := by
      intro z hz
      rw [h.others z (hne z hz)] at hz
      exact hz
    rw [h.database, h.database] at hxy
    exact hs.alone x y (hold x hx) (hold y hy) hxy
  fits x := by
    by_cases hx : x = c
    · rw [hx, h.self]; exact True.intro
    · rw [h.others x hx]
      by_cases hd : (e.connection x).database = (e.connection c).database
      · have hquiet : (e.connection x).transaction.isWriting = false := by
          cases hw : (e.connection x).transaction.isWriting with
          | false => rfl
          | true => exact absurd (hs.alone x c hw (by rw [hc]; rfl) hd) hx
        have hversion : (e.databaseOf x).version < (e'.databaseOf x).version := by
          rw [h.here x hd]; exact Nat.lt_succ_self _
        exact (hs.fits x).later hquiet hversion fun t ht => h.grown hs hc x ht
      · rw [h.elsewhere x hd]; exact hs.fits x

theorem CommitsAt.grows {work : Option Table} (h : e.CommitsAt e' c work) (hs : e.Sound)
    (hc : (e.connection c).transaction = .writing work) : e.Grows e' where
  closed x _ hclosed := by
    by_cases hx : x = c
    · rw [hx] at hclosed ⊢; rw [h.self]; exact hclosed
    · rw [h.others x hx]; exact hclosed
  length := Nat.le_of_eq h.length.symm
  sees x t hview hopen := by
    obtain ⟨-, hsees⟩ := view_eq_ok_iff.1 hview
    by_cases hx : x = c
    · subst hx
      rw [hc] at hsees
      refine ⟨t, view_eq_ok_iff.2 ⟨hopen, ?_⟩, .refl t⟩
      rw [h.self, h.here x rfl]
      exact hsees
    · have hlater : ∃ t', (e.connection x).transaction.view (e'.databaseOf x) = some t' ∧
          t.Within t' := by
        by_cases hd : (e.connection x).database = (e.connection c).database
        · cases hw : (e.connection x).transaction.isWriting with
          | false => exact Transaction.view_later hw hsees fun t ht => h.grown hs hc x ht
          | true => exact absurd (hs.alone x c hw (by rw [hc]; rfl) hd) hx
        · rw [h.elsewhere x hd]; exact ⟨t, hsees, .refl t⟩
      obtain ⟨t', ht', hwithin⟩ := hlater
      refine ⟨t', view_eq_ok_iff.2 ⟨hopen, ?_⟩, hwithin⟩
      rw [h.others x hx]
      exact ht'

/-- A commit makes the work of a connection the committed state, which has all cells of the one
before. -/
theorem preserves_commit (hopen : (e.connection c).isOpen = true) : e.Preserves (e.commit c) := by
  cases hw : (e.connection c).transaction.isWriting with
  | true =>
    cases htr : (e.connection c).transaction with
    | writing work =>
      intro hs
      have hc := lt_of_isOpen hopen
      have hcommits := commitsAt hc (hs.databases c hc) work
      rw [commit_of_writing htr]
      exact ⟨hcommits.sound hs htr, hcommits.grows hs htr⟩
    | _ => rw [htr] at hw; cases hw
  | false =>
    intro hs
    rw [commit_of_not_writing hw]
    refine preserves_setTransaction hopen True.intro (fun h => nomatch h) ?_ hs
    intro t ht
    have hfits := hs.fits c
    cases htr : (e.connection c).transaction with
    | idle => rw [htr] at ht; exact ⟨t, ht, .refl t⟩
    | begun => rw [htr] at ht; exact ⟨t, ht, .refl t⟩
    | reading snapshot version =>
      rw [htr] at ht hfits
      obtain ⟨t', ht', hwithin, -, -⟩ := hfits
      obtain rfl : snapshot = t := Option.some.inj ht
      exact ⟨t', ht', hwithin⟩
    | writing work => rw [htr] at hw; cases hw

/-! ## New connections and databases -/

theorem preserves_addConnection (d : DatabaseId) (hd : d < e.databases.length) :
    e.Preserves (e.addConnection d).2 := by
  intro hs
  have hold : ∀ c < e.connections.length,
      (e.addConnection d).2.connection c = e.connection c :=
    fun c hc => connection_addConnection_of_lt hc d
  have htransaction : ∀ c, (e.connection c).transaction =
      ((e.addConnection d).2.connection c).transaction ∧
        ((e.connection c).transaction ≠ .idle →
          (e.connection c).database = ((e.addConnection d).2.connection c).database) := by
    intro c
    rcases Nat.lt_trichotomy c e.connections.length with hlt | rfl | hgt
    · rw [hold c hlt]; exact ⟨rfl, fun _ => rfl⟩
    · rw [connection_addConnection_self, connection_of_ge (Nat.le_refl _)]
      exact ⟨rfl, fun h => absurd rfl h⟩
    · rw [connection_of_ge (Nat.le_of_lt hgt),
        connection_of_ge (by rw [length_addConnection]; exact hgt)]
      exact ⟨rfl, fun h => absurd rfl h⟩
  have hwriting : ∀ c, ((e.addConnection d).2.connection c).transaction.isWriting = true →
      (e.connection c).transaction.isWriting = true ∧
        (e.connection c).database = ((e.addConnection d).2.connection c).database := by
    intro c hw
    rw [← (htransaction c).1] at hw
    refine ⟨hw, (htransaction c).2 ?_⟩
    intro hidle
    rw [hidle] at hw
    cases hw
  refine ⟨⟨hs.files, ?_, ?_, ?_, ?_⟩, ⟨?_, by simp, ?_⟩⟩
  · intro c hc
    rw [length_addConnection] at hc
    rcases Nat.lt_or_ge c e.connections.length with hlt | hge
    · rw [hold c hlt]; exact hs.databases c hlt
    · obtain rfl : c = e.connections.length := Nat.le_antisymm (Nat.le_of_lt_succ hc) hge
      rw [connection_addConnection_self]
      exact hd
  · intro c hclosed
    rcases Nat.lt_trichotomy c e.connections.length with hlt | rfl | hgt
    · rw [hold c hlt] at hclosed ⊢; exact hs.closed c hclosed
    · rw [connection_addConnection_self] at hclosed; cases hclosed
    · rw [connection_of_ge (by rw [length_addConnection]; exact hgt)]
  · intro c c' hw hw' hcc'
    obtain ⟨hw, hc⟩ := hwriting c hw
    obtain ⟨hw', hc'⟩ := hwriting c' hw'
    exact hs.alone c c' hw hw' ((hc.trans hcc').trans hc'.symm)
  · intro c
    have hfits := hs.fits c
    by_cases hidle : (e.connection c).transaction = .idle
    · rw [← (htransaction c).1, hidle]; exact True.intro
    · rw [databaseOf, ← (htransaction c).2 hidle, ← (htransaction c).1]; exact hfits
  · intro c hc hclosed
    rw [hold c hc]; exact hclosed
  · intro c t hview _
    refine ⟨t, ?_, .refl t⟩
    rw [view, databaseOf, hold c (lt_of_view hview)]
    exact hview

theorem preserves_addDatabase {disk : Disk}
    (hfiles : ∀ p d, disk.node? p = some (.database d) →
      e.disk.node? p = some (.database d) ∨ d = e.databases.length) :
    e.Preserves { e with disk, databases := e.databases ++ [{}] } := by
  intro hs
  have hdatabaseOf : ∀ c < e.connections.length,
      databaseOf { e with disk, databases := e.databases ++ [{}] } c = e.databaseOf c :=
    fun c hc => database_of_lt (hs.databases c hc)
      (List.getElem?_append_left (hs.databases c hc))
  have hlength : (e.databases ++ [({} : Database)]).length = e.databases.length + 1 := by simp
  refine ⟨⟨?_, ?_, hs.closed, hs.alone, ?_⟩, ⟨fun _ _ h => h, Nat.le_refl _, ?_⟩⟩
  · intro p d hnode
    rw [hlength]
    rcases hfiles p d hnode with hold | rfl
    · exact Nat.lt_succ_of_lt (hs.files p d hold)
    · omega
  · intro c hc
    rw [hlength]; exact Nat.lt_succ_of_lt (hs.databases c hc)
  · intro c
    rcases Nat.lt_or_ge c e.connections.length with hlt | hge
    · rw [hdatabaseOf c hlt]; exact hs.fits c
    · have hgone : (e.connection c).transaction = .idle := by rw [connection_of_ge hge]
      change (e.connection c).transaction.Fits _
      rw [hgone]
      exact True.intro
  · intro c t hview _
    refine ⟨t, ?_, .refl t⟩
    rw [view, hdatabaseOf c (lt_of_view hview)]
    exact hview

theorem preserves_disk {disk : Disk} (hsame : e.disk.SameFiles disk) :
    e.Preserves { e with disk } := by
  intro hs
  exact ⟨⟨fun p d hnode => hs.files p d ((hsame.databases p d).1 hnode), hs.databases, hs.closed,
    hs.alone, hs.fits⟩, ⟨fun _ _ h => h, Nat.le_refl _, fun c t hview _ => ⟨t, hview, .refl t⟩⟩⟩

theorem preserves_connect (e : Engine) (path : Text) : e.Preserves (e.connect path).2 := by
  have hcases := connect_cases e path
  generalize e.connect path = result at hcases ⊢
  obtain ⟨outcome, after⟩ := result
  cases hcases with
  | refused f => exact .refl _
  | joined n hshared hnode =>
    intro hs
    exact preserves_addConnection n (hs.files _ n hnode) hs
  | made disk hdisk =>
    refine (preserves_addDatabase ?_).trans (preserves_addConnection e.databases.length (by simp))
    intro p d hnode
    rcases hdisk with ⟨-, rfl⟩ | ⟨-, hfree, rfl⟩
    · exact .inl hnode
    · by_cases hp : Path.resolve e.disk.workingDirectory path = p
      · subst hp
        rw [Disk.node?_set_self hfree] at hnode
        cases hnode
        exact .inr rfl
      · rw [Disk.node?_set_of_ne _ hp] at hnode
        exact .inl hnode

/-! ## Writing -/

theorem others_of_lock (hs : e.Sound) {base : Option Table} (hlock : e.lock c = .ok base)
    {x : ConnectionId} (hx : x ≠ c) (hd : (e.connection x).database = (e.connection c).database) :
    (e.connection x).transaction.isWriting = false := by
  cases hw : (e.connection x).transaction.isWriting with
  | false => rfl
  | true =>
    have hlt : x < e.connections.length := lt_of_transaction fun hidle => by
      rw [hidle] at hw; cases hw
    unfold lock at hlock
    dsimp only at hlock
    split at hlock
    · next hwc => exact absurd (hs.alone x c hw hwc hd) hx
    · have hlocked : e.isLockedFor c = true := by
        rw [isLockedFor, List.any_eq_true]
        exact ⟨x, List.mem_range.2 hlt, by simp [hx, hd, hw]⟩
      rw [if_pos hlocked] at hlock
      cases hlock

theorem within_of_lock (hs : e.Sound) {t : Table} (hview : e.view c = .ok t)
    (hlock : e.lock c = .ok (some t)) {committed : Table}
    (hcells : (e.databaseOf c).cells = some committed) : committed.Within t := by
  have hfits := hs.fits c
  have hsees := (view_eq_ok_iff.1 hview).2
  have hsame : (e.databaseOf c).cells = some t → committed.Within t := by
    intro h
    obtain rfl := Option.some.inj (hcells.symm.trans h)
    exact .refl committed
  cases htr : (e.connection c).transaction with
  | idle => rw [htr] at hsees; exact hsame hsees
  | begun => rw [htr] at hsees; exact hsame hsees
  | reading snapshot version =>
    rw [htr] at hfits hsees
    obtain ⟨t', ht', -, -, hcurrent⟩ := hfits
    obtain rfl : snapshot = t := Option.some.inj hsees
    have hbase := base_of_lock hlock
    rw [htr, Transaction.base?] at hbase
    split at hbase
    · next hversion => exact hsame (hcurrent hversion ▸ ht')
    · cases hbase
  | writing work =>
    rw [htr] at hfits hsees
    obtain ⟨t', rfl, hwithin⟩ := hfits committed hcells
    obtain rfl := Option.some.inj hsees
    exact hwithin

theorem preserves_insert {t : Table} (hview : e.view c = .ok t) (hlock : e.lock c = .ok (some t))
    (key : Bytes) (family : Text) (cells : Cells) :
    e.Preserves (e.setTransaction c (.writing (some (t.putAll key family cells)))) := by
  intro hs
  have hgrown := t.within_putAll key family cells
  refine preserves_setTransaction (view_eq_ok_iff.1 hview).1 ?_
    (fun _ x hx hd => others_of_lock hs hlock hx hd) ?_ hs
  · intro committed hcommitted
    exact ⟨_, rfl, (within_of_lock hs hview hlock hcommitted).trans hgrown⟩
  · intro seen hseen
    obtain rfl := Option.some.inj ((view_eq_ok_iff.1 hview).2.symm.trans hseen)
    exact ⟨_, rfl, hgrown⟩

/-- No write takes anything away, and neither does one that fails. -/
theorem preserves_put (e : Engine) (c : ConnectionId) (key : Bytes) (family : Text)
    (cells : Cells) : e.Preserves (e.put c key family cells).2 := by
  cases hview : e.view c with
  | error f =>
    rw [put, hview]
    exact .refl e
  | ok t =>
    have hc := lt_of_view hview
    have hopen := (view_eq_ok_iff.1 hview).1
    have hcases := put_cases hc key family cells
    generalize e.put c key family cells = result at hcases ⊢
    obtain ⟨outcome, after⟩ := result
    cases hcases with
    | unseen f _ => exact .refl _
    | empty t _ _ => exact preserves_commit hopen
    | refused t _ x _ _ => exact preserves_start hopen
    | locked t _ f _ _ => exact preserves_start hopen
    | stuck t hview x _ hlock _ => exact preserves_insert hview hlock key family _
    | committed t hview _ _ hlock =>
      have hinsert := preserves_insert hview hlock key family cells
      have hcommit := hinsert.trans
        (preserves_commit (by rw [connection_setTransaction hc]; exact hopen))
      rwa [commit_writing hc] at hcommit

theorem preserves_ensureTable (c : ConnectionId) : e.Preserves (e.ensureTable c).2 := by
  unfold ensureTable
  cases hopen : (e.connection c).isOpen with
  | false => exact .refl e
  | true =>
    have hself := connection_commit (lt_of_isOpen hopen)
    have hidle : ((e.commit c).connection c).transaction = .idle := by rw [hself]
    have hcommit := preserves_commit hopen
    have hstill : ((e.commit c).connection c).isOpen = true := by rw [hself]; exact hopen
    rw [if_neg (by simp)]
    dsimp only
    generalize e.commit c = between at hself hidle hcommit hstill ⊢
    cases hcells : (between.databaseOf c).cells with
    | some t => exact hcommit
    | none =>
      dsimp only
      cases hlock : between.lock c with
      | error f => exact hcommit
      | ok base =>
        have hset : between.Preserves
            (between.setTransaction c (.writing (some .empty))) := by
          intro hs
          refine preserves_setTransaction hstill ?_
            (fun _ x hx hd => others_of_lock hs hlock hx hd) ?_ hs
          · intro t ht
            rw [hcells] at ht; cases ht
          · intro t ht
            rw [hidle, Transaction.view, hcells] at ht; cases ht
        refine (hcommit.trans hset).trans (preserves_commit ?_)
        rw [connection_setTransaction (lt_of_isOpen hstill)]
        exact hstill

end Engine

end HourlyUsage
