import TableDiscovery.Proofs.Connector.Steady
import TableDiscovery.Proofs.Program.Printing

/-!
# Listing and planning

Listing and planning poll once on a connection of their own. On a database that does not change, the
poll comes to what the settings come to with the rows of the listing, and so do the commands.

* `views_pollOnce`, **`outcome_discoverOnce`**: one poll comes to `Settings.shown`;
* `Fresh`, `gathered`, `gather_spec`: a program that has just begun, and the settings that it reads;
* `prints_found`: what both commands have in common;
* **`list_of_error`, `list_of_shown`**: listing;
* `assignOnce`, **`plan_of_error`, `plan_of_planned`**: planning.
-/

namespace TableDiscovery.Program

open Act Snapshot

variable {β : Type} {P : Program} {o : String}

/-! ## One poll -/

section Once

variable {p : Props} {s : Settings} {t : Filter} {d : Dialect} {f : Fault}
  {rows : List Dialect.Row} {ts : List Table} {w : Watch}

/-- A poll on a connection that is accepted, and what a reader gets then. -/
theorem views_pollOnce (hgood : Connector.Good p s t d) (hw : w.Awaits rows (t.apply d ts))
    (hts : d.tablesOfRows rows = .ok ts) :
    let m := s.monitor d t 0.0
    let x : Act Watch (Dialect × List Table) := do
      let _ ← (s.provider d).get
      let _ ← m.poll
      if (← get).snapshot.isNone then throw .listingUnavailable
      return (d, ← m.tables)
    x.outcome w = s.shown rows ∧ (x.after w).script.Steady rows := by
  intro m x
  let Q (r : Except Fault (Dialect × List Table)) (v : Watch) :=
    r = s.shown rows ∧ v.script.Steady rows
  have hget : Meets w.Still (fun _ => False) (liftM (s.provider d).get : Act Watch Nat) :=
    still_liftPool (returns_get hw.steady hgood.works)
  obtain ⟨connection, hconnected⟩ := hget.returns (.refl w)
  have hstill := (hget w (.refl w)).1
  refine views_of_ok (Q := Q) hconnected rfl ?_
  generalize (liftM (s.provider d).get : Act Watch Nat).after w = u at hstill
  obtain ⟨hpoll, hpolled⟩ := shows_poll (m := m) hgood.works hts (hw.still hstill)
  refine views_of_ok (Q := Q) hpoll rfl ?_
  generalize m.poll.after u = v at hpolled
  refine views_of_ok (Q := Q) (outcome_get v) (after_get v) ?_
  simp only [hpolled.snapshot, Option.isNone_some, Bool.false_eq_true, if_false]
  have htables : m.tables.outcome v = if (names (t.apply d ts)).Nodup then .ok (t.apply d ts)
      else .error (.duplicateTables (ofTables (t.apply d ts)).duplicates t.hint) :=
    Monitor.outcome_tables_some hpolled.snapshot
  have hshown := Settings.shown_of_tables hgood.filter hgood.dialect hts
  by_cases hnodup : (names (t.apply d ts)).Nodup
  · rw [if_pos hnodup] at htables hshown
    exact views_of_ok (Q := Q) htables (m.after_tables v) ⟨hshown.symm, hpolled.steady⟩
  · rw [if_neg hnodup] at htables hshown
    exact views_of_error (Q := Q) htables (m.after_tables v) ⟨hshown.symm, hpolled.steady⟩

/-- **One poll comes to what the settings come to.** -/
theorem outcome_discoverOnce (hread : Settings.ofProps p = .ok s) (hwell : s.WellFormed)
    (hrows : Dialect.NamesTables rows) (hw : w.script.Steady rows) (hwoken : w.host.woken = false)
    (hnone : w.snapshot = none) : (discoverOnce s).outcome w = s.shown rows := by
  have hs := Settings.read_of_ofProps hread
  rw [discoverOnce, outcome_ofExcept_bind]
  cases ht : s.filter with
  | error f =>
    rw [Settings.shown, ht]
    rfl
  | ok t =>
  show outcome (Act.ofExcept s.dialect >>= _) w = _
  rw [outcome_ofExcept_bind]
  cases hd : s.dialect with
  | error f =>
    rw [Settings.shown, ht, hd]
    rfl
  | ok d =>
  have hannounce : Idle (liftM d.announce) () := idle_log _ _ _
  obtain ⟨hstill, hlog⟩ := hannounce w
  generalize hv : (liftM d.announce : Act Watch Unit).after w = v at hstill
  have hprovider : Provider.check ⟨d, s.attempts, s.backoff⟩ = .ok (s.provider d) :=
    hs.check_provider d
  have hmonitor : Monitor.check ⟨s.provider d, s.pollInterval, t, 0.0⟩ =
      .ok (s.monitor d t 0.0) := hs.check_monitor d t 0.0
  show outcome ((liftM d.announce : Act Watch Unit) >>= _) w = _
  rw [outcome_bind_of_ok hlog hv, outcome_ofExcept_bind, hprovider]
  show outcome (Act.ofExcept _ >>= _) v = _
  rw [outcome_ofExcept_bind, hmonitor]
  obtain ⟨ts, hts⟩ := Dialect.exists_tablesOfRows hrows d
  have hgood := good_of_wellFormed hread hwell ht hd
  have hawaits : w.Awaits rows (t.apply d ts) := ⟨hw, .inl hnone, hwoken⟩
  obtain ⟨hout, hsteady⟩ := views_pollOnce hgood (hawaits.still hstill) hts
  have hclose {u : Watch} (hu : u.script.Steady rows) :
      (liftM (s.provider d).close : Act Watch Unit).outcome u = .ok () := by
    have hquiet : Meets u.Still (fun _ => False) (liftM (s.provider d).close : Act Watch Unit) :=
      still_liftPool (returns_close hu.closes _)
    obtain ⟨⟨⟩, hclosed⟩ := hquiet.returns (.refl u)
    exact hclosed
  obtain ⟨hfinally, -⟩ := views_andFinally (hclose hsteady)
  exact hfinally.trans hout

end Once

/-! ## Settings -/

/-- A program that has just begun, with a database that does not change. -/
structure Fresh (rows : List Dialect.Row) (P : Program) : Prop where
  steady : P.script.Steady rows
  snapshot : P.snapshot = none
  dialect : P.dialect = none
  woken : P.host.woken = false
  closing : ∀ f, P.dialectCloseFault = some f → f.isFailure = true

/-- The settings that the commands gather from the environment and their arguments. -/
def gathered (env : Assoc String String) (a : Arguments) : Props :=
  Settings.propsOfEnvironment "SOURCE_" env (overrides a)

section Commands

variable {env : Assoc String String} {a : Arguments} {rows : List Dialect.Row}
  {s : Settings} {d : Dialect} {f : Fault} {tables : List Table} {gs : List (List Table)}

theorem Fresh.onSite {site : Site} (h : P.Fresh rows) (hsite : P.toSite.Aside site) :
    (P.onConnector (P.toConnector.onSite site)).Fresh rows :=
  ⟨hsite.script.symm ▸ h.steady, h.snapshot, h.dialect, h.woken, h.closing⟩

theorem gather_spec (env : Assoc String String) (a : Arguments) (P : Program) :
    (liftM (gatherSettings env a) : Act Program Settings).outcome P =
        Settings.ofProps (gathered env a) ∧
      ∃ site, P.toSite.Aside site ∧ (liftM (gatherSettings env a) : Act Program Settings).after P =
        P.onConnector (P.toConnector.onSite site) := by
  have hlog (message : String) :
      P.toSite.Aside ((Site.log .debug Settings.logger message).after P.toSite) :=
    (aside_log (E := fun _ => True) P.toSite (.refl _)).1
  rw [outcome_liftSite, after_liftSite, gatherSettings, Settings.ofEnvironment]
  rw [outcome_bind, after_bind, outcome_log]
  dsimp only
  rw [outcome_ofExcept, after_ofExcept]
  exact ⟨rfl, _, hlog _, rfl⟩

/-- What is found with the settings is printed: it is computed in a program that has just begun. -/
theorem prints_found {k : Settings → Act Program β} {g : Settings → Except Fault β}
    {finish : Except Fault β → Act Program (Option Nat)} {status : Option Nat}
    {lines : List String} (hP : P.Fresh rows)
    (hsilent : ∀ s, Meets (fun R => R.output = P.output) (fun _ => True) (k s))
    (hk : ∀ s R, Settings.ofProps (gathered env a) = .ok s → Fresh rows R → (k s).outcome R = g s)
    (hfinish : ∀ R, Prints (finish (Settings.ofProps (gathered env a) >>= g)) R status lines) :
    Prints ((liftM (gatherSettings env a) >>= k).attempt >>= finish) P status lines := by
  obtain ⟨hout, site, hsite, hafter⟩ := gather_spec env a P
  have hfound : outcome (liftM (gatherSettings env a) >>= k) P =
      (Settings.ofProps (gathered env a) >>= g) := by
    rw [outcome_bind, hout, hafter]
    cases hread : Settings.ofProps (gathered env a) with
    | error f => rfl
    | ok s => exact hk s _ hread (hP.onSite hsite)
  have hwhole := meets_bind (silent_lift (liftM (gatherSettings env a))) hsilent
  refine Prints.attempt (hwhole P rfl).1 ?_
  rw [hfound]
  exact hfinish _

section Shown

variable (hrows : Dialect.NamesTables rows)
  (hwell : ∀ s, Settings.ofProps (gathered env a) = .ok s → s.WellFormed)

include hrows hwell

theorem outcome_liftDiscoverOnce (hread : Settings.ofProps (gathered env a) = .ok s)
    (hP : P.Fresh rows) :
    (liftM (discoverOnce s) : Act Program (Dialect × List Table)).outcome P = s.shown rows :=
  (outcome_liftWatch ..).trans
    (outcome_discoverOnce hread (hwell s hread) hrows hP.steady hP.woken hP.snapshot)

/-! ## Listing -/

theorem list_of_error (hP : P.Fresh rows)
    (h : (Settings.ofProps (gathered env a) >>= fun s => s.shown rows) = .error f)
    (hf : f.isA .discovery = true) : Prints (list env a) P (some 1) [] := by
  refine prints_found hP (fun s => silent_lift (liftM (discoverOnce s)))
    (fun s R => outcome_liftDiscoverOnce hrows hwell) fun R => ?_
  rw [h]
  exact prints_endOn (by simp [Fault.isAnyOf, hf])

theorem list_of_shown (hP : P.Fresh rows)
    (h : (Settings.ofProps (gathered env a) >>= fun s => s.shown rows) = .ok (d, tables)) :
    Prints (list env a) P none (tables.map d.render) := by
  refine prints_found hP (fun s => silent_lift (liftM (discoverOnce s)))
    (fun s R => outcome_liftDiscoverOnce hrows hwell) fun R => ?_
  rw [h]
  exact prints_lines d.render tables fun _ => Prints.log fun _ => prints_pure

/-! ## Planning -/

/-- The tables are listed and assigned to tasks. -/
def assignOnce (s : Settings) : Act Program (Dialect × List (List Table)) := do
  let (d, tables) ← discoverOnce s
  return (d, ← Act.ofExcept (Assignment.assign tables s.tasksMax s.queryMode))

omit hrows hwell in
theorem silent_assignOnce (s : Settings) :
    Meets (fun P => P.output = o) (fun _ => True) (assignOnce s) :=
  meets_bind (silent_lift (liftM (discoverOnce s))) fun _ =>
    meets_bind (meets_ofExcept fun _ _ => trivial) fun _ => meets_pure _

theorem outcome_assignOnce (hread : Settings.ofProps (gathered env a) = .ok s)
    (hP : P.Fresh rows) : (assignOnce s).outcome P = s.planned rows := by
  rw [assignOnce, outcome_bind, outcome_liftDiscoverOnce hrows hwell hread hP, Settings.planned]
  cases s.shown rows with
  | error f => rfl
  | ok shown =>
    dsimp only
    rw [outcome_ofExcept_bind]
    rfl

theorem plan_of_error (hP : P.Fresh rows)
    (h : (Settings.ofProps (gathered env a) >>= fun s => s.planned rows) = .error f)
    (hf : f.isA .discovery = true) : Prints (plan env a) P (some 1) [] := by
  refine prints_found (k := assignOnce) hP silent_assignOnce
    (fun s R => outcome_assignOnce hrows hwell) fun R => ?_
  rw [h]
  exact prints_endOn (by simp [Fault.isAnyOf, hf])

theorem plan_of_planned (hP : P.Fresh rows)
    (h : (Settings.ofProps (gathered env a) >>= fun s => s.planned rows) = .ok (d, gs)) :
    Prints (plan env a) P none (Assignment.lines gs d) := by
  refine prints_found (k := assignOnce) hP silent_assignOnce
    (fun s R => outcome_assignOnce hrows hwell) fun R => ?_
  rw [h]
  have hlines : Prints ((Assignment.lines gs d).forM print >>= fun _ => pure none) R none
      ((Assignment.lines gs d).map fun line => line) :=
    prints_lines (fun line => line) _ fun _ => prints_pure
  rw [List.map_id'] at hlines
  exact hlines

end Shown

end Commands

end TableDiscovery.Program
