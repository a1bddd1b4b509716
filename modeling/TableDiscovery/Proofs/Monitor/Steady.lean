import TableDiscovery.Proofs.Connecting
import TableDiscovery.Proofs.Monitor.Beside
import TableDiscovery.Proofs.Monitor.Poll

/-!
# Monitoring a database that does not change

If all connections are accepted and all listings are the same, the first poll publishes what passes
the filter, and no later one finds anything else. So nobody is ever woken.

* **`listing_of_steady`**: each listing comes to the tables of the same rows;
* `Watch.Awaits`, `Watch.Shows`: the tables are published at most, or they are published;
* **`shows_turn`**, **`keeps_shows`**: the first poll, and the later ones.
-/

namespace TableDiscovery

open Act

variable {rows : List Dialect.Row} {m : Monitor} {w v : Watch} {ts : List Table}

/-! ## Listings -/

theorem lookUp_of_steady (h : w.script.Steady rows) (hp : m.provider.Works) :
    m.lookUp.outcome w = m.dialect.tablesOfRows rows := by
  have hget : Meets w.Still (fun _ => False) (liftM m.provider.get : Act Watch Nat) :=
    still_liftPool (returns_get h hp)
  obtain ⟨connection, hconnected⟩ := hget.returns (.refl w)
  have hstill := (hget w (.refl w)).1
  rw [Monitor.lookUp, outcome_bind_of_ok hconnected rfl]
  generalize (liftM m.provider.get : Act Watch Nat).after w = v at hstill
  have hlisting : v.script.listing v.counts.listing = { rows := rows } := by
    rw [show v.script = w.script from hstill.script]
    exact h.listing _
  obtain ⟨-, hfetch⟩ := fetch_spec m connection v
  rw [hlisting] at hfetch
  rw [outcome_bind_of_ok hfetch rfl, outcome_bind, outcome_ofExcept,
    show m.dialect.tablesOf { rows := rows } = m.dialect.tablesOfRows rows from rfl]
  cases m.dialect.tablesOfRows rows with
  | error f => rfl
  | ok tables =>
    dsimp only
    rw [outcome_bind, outcome_liftSite, outcome_of_quiet fun _ => quiet_setAttribute]
    rfl

/-- **Each listing comes to the tables of the same rows.** -/
theorem listing_of_steady (h : w.script.Steady rows) (hp : m.provider.Works) :
    m.listing w = m.dialect.tablesOfRows rows := by
  obtain ⟨hnow, -⟩ := still_liftSite (E := fun _ => True) quiet_now w (.refl w)
  rw [after_liftSite] at hnow
  obtain ⟨v, hv, -, hout⟩ := traced_spec "list_tables" .client
    (untold?_dialect m.dialect) m.lookUp (w.onSite (Site.now.after w.toSite))
  have hscript : v.script = w.script := (hnow.trans hv).script
  exact hout.trans (lookUp_of_steady (hscript.symm ▸ h) hp)

/-! ## Polls -/

/-- The database does not change, nobody is to be woken, and no other tables are published. -/
structure Watch.Awaits (rows : List Dialect.Row) (shown : List Table) (w : Watch) : Prop where
  steady : w.script.Steady rows
  snapshot : w.snapshot = none ∨ w.snapshot = some (.ofTables shown)
  woken : w.host.woken = false

theorem Watch.Awaits.still {shown : List Table} (h : w.Awaits rows shown) (hv : w.Still v) :
    v.Awaits rows shown where
  steady := (show v.script = w.script from hv.script).symm ▸ h.steady
  snapshot := hv.snapshot ▸ h.snapshot
  woken := hv.host ▸ h.woken

/-- The database does not change, the tables are published, and nobody is to be woken. -/
structure Watch.Shows (rows : List Dialect.Row) (shown : List Table) (w : Watch) : Prop where
  steady : w.script.Steady rows
  snapshot : w.snapshot = some (.ofTables shown)
  woken : w.host.woken = false

theorem Watch.Shows.beside {shown : List Table} (h : w.Shows rows shown) (hb : w.Beside v) :
    v.Shows rows shown where
  steady := hb.script.symm ▸ h.steady
  snapshot := hb.snapshot.trans h.snapshot
  woken := hb.host.symm ▸ h.woken

theorem Watch.Shows.awaits {shown : List Table} (h : w.Shows rows shown) : w.Awaits rows shown :=
  ⟨h.steady, .inr h.snapshot, h.woken⟩

/-- A poll publishes the tables, unless they are published already, and reports no change. -/
theorem shows_poll (hp : m.provider.Works) (hts : m.dialect.tablesOfRows rows = .ok ts)
    (hw : w.Awaits rows (m.filter.apply m.dialect ts)) :
    m.poll.outcome w = .ok false ∧ (m.poll.after w).Shows rows (m.filter.apply m.dialect ts) := by
  have hlisting := (listing_of_steady hw.steady hp).trans hts
  obtain ⟨cs, -, hmade⟩ := Monitor.poll_made m w
  have hsteady : (m.poll.after w).script.Steady rows := hmade.script.symm ▸ hw.steady
  have hwoken : (m.poll.after w).host.woken = false := by
    rw [Monitor.poll_host]
    exact hw.woken
  rcases Monitor.poll_of_ok hlisting with ⟨hsame, hafter, -, hout⟩ | ⟨hother, hafter, -, hout⟩
  · refine ⟨hout, hsteady, ?_, hwoken⟩
    rcases hw.snapshot with hnone | hsome
    · rw [hnone] at hsame
      cases hsame
    · exact hafter.trans hsome
  · rcases hw.snapshot with hnone | hsome
    · rw [hnone] at hout
      exact ⟨hout, hsteady, hafter, hwoken⟩
    · rw [hsome] at hother
      exact (hother rfl).elim

/-- **A poll with its request** does no more than this. -/
theorem shows_turn (hp : m.provider.Works) (hts : m.dialect.tablesOfRows rows = .ok ts)
    (hw : w.Awaits rows (m.filter.apply m.dialect ts)) :
    m.pollAndRequest.outcome w = .ok () ∧
      (m.pollAndRequest.after w).Shows rows (m.filter.apply m.dialect ts) := by
  obtain ⟨hout, hafter⟩ := shows_poll hp hts hw
  let Q (r : Except Fault Unit) (v : Watch) :=
    r = .ok () ∧ v.Shows rows (m.filter.apply m.dialect ts)
  exact views_of_ok (Q := Q) hout rfl (show Q (.ok ()) (m.poll.after w) from ⟨rfl, hafter⟩)

/-- **The monitor goes on to show the same tables.** -/
theorem keeps_shows (hp : m.provider.Works) (hts : m.dialect.tablesOfRows rows = .ok ts) :
    m.Keeps (Watch.Shows rows (m.filter.apply m.dialect ts)) (fun _ => False) where
  beside _ _ := Watch.Shows.beside
  turn w hw := by
    obtain ⟨hout, hafter⟩ := shows_turn hp hts hw.awaits
    refine ⟨hafter, fun f hf => ?_⟩
    cases hout.symm.trans hf
  report f hf := hf.elim

end TableDiscovery
