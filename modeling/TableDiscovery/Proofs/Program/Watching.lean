import TableDiscovery.Proofs.Program.Listing

/-!
# Watching

On a database that does not change nothing happens while a program watches, so that it prints the
tasks once, however long it waits.

* `taskLines`, `Watching`: what is printed for the tasks, and a program that watches;
* **`leads_awaitChange`**: no change comes;
* `watching_read`, `watchRounds_of_ok`, `watchRounds_of_error`: the round that prints the tasks, or
  ends the program;
* `views_startWatching`, `watching_start`: the start;
* **`watch_of_error`, `watch_of_planned`**: watching from the start to the stop.
-/

namespace TableDiscovery.Program

open Act Snapshot

variable {α : Type} {E : Fault → Prop} {P : Program} {o : String}
  {env : Assoc String String} {a : Arguments} {rows : List Dialect.Row} {s : Settings}
  {d : Dialect} {f : Fault} {tables : List Table} {gs : List (List Table)}

/-! ## While a program watches -/

/-- What is printed for the groups of the tasks. -/
def taskLines (gs : List (List Table)) (d : Dialect) : List String :=
  (toString gs.length ++ " task(s):") :: gs.zipIdx.map fun p =>
    "  task-" ++ toString p.2 ++ ": " ++ Assignment.taskText (d.renderList p.1)

/-- The program watches: its connector runs and shows the tables, answered as another one was, and
`o` has been printed. -/
structure Watching (c : Connector) (s : Settings) (d : Dialect) (m : Monitor)
    (rows : List Dialect.Row) (tables : List Table) (o : String) (P : Program) : Prop where
  runs : P.toConnector.Runs s d m (Watch.Shows rows tables)
  alike : c.Alike P.toConnector
  output : P.output = o

section Watching

variable {c : Connector} {m : Monitor} (hm : m.Keeps (Watch.Shows rows tables) fun _ => False)

include hm

theorem watching_stays {x : Act Connector α} (hx : ∀ c : Connector, Meets c.Stays E x) :
    Meets (Watching c s d m rows tables o) E (liftM x : Act Program α) := by
  intro P hP
  obtain ⟨hruns, hfault⟩ := Connector.runs_stays hm hx _ hP.runs
  have hstays := (hx P.toConnector _ (.refl _)).1
  rw [after_liftConnector, outcome_liftConnector]
  exact ⟨⟨hruns, hP.alike.trans hstays.alike, hP.output⟩, hfault⟩

theorem watching_log {level : Level} {logger message : String} :
    Meets (Watching c s d m rows tables o) (fun _ => False)
      (liftM (Site.log level logger message) : Act Program Unit) :=
  watching_stays hm (x := liftM (Site.log level logger message)) fun _ => Connector.stays_log

theorem watching_tick :
    Meets (Watching c s d m rows tables o) (fun _ => False)
      (liftM Connector.tick : Act Program Unit) := by
  intro P hP
  obtain ⟨hruns, hfault⟩ := Connector.runs_tick hm _ hP.runs
  have hsame := (Connector.same_tick P.toConnector (.refl _)).1
  rw [after_liftConnector, outcome_liftConnector]
  exact ⟨⟨hruns, hP.alike.trans hsame.alike, hP.output⟩, hfault⟩

omit hm in
/-- There is nothing to wake for. -/
theorem leads_takeWake : Leads (Watching c s d m rows tables o)
    (fun woken P => woken = false ∧ Watching c s d m rows tables o P) (fun _ _ => False)
    takeWake := by
  refine leads_get_bind fun P hP => ?_
  refine leads_bind (Q := fun _ => Watching c s d m rows tables o) ?_
    fun _ => leads_pure fun _ h => ⟨hP.runs.watch.woken, h⟩
  refine leads_modify fun R hR => ?_
  subst hR
  obtain ⟨⟨hs, hd, hmonitor, hshows⟩, halike, houtput⟩ := hP
  exact ⟨⟨hs, hd, hmonitor, hshows.steady, hshows.snapshot, rfl⟩,
    ⟨halike.script, halike.closeFault⟩, houtput⟩

theorem leads_interrupted : Leads (Watching c s d m rows tables o)
    (fun r P => r = none ∧ Watching c s d m rows tables o P) (fun _ _ => False) interrupted :=
  leads_bind (leads_of_returns (watching_log hm)) fun _ => leads_pure fun _ h => ⟨rfl, h⟩

/-- **No change comes**, however long one waits. -/
theorem leads_awaitChange (polls : Nat) : Leads (Watching c s d m rows tables o)
    (fun left P => left = none ∧ Watching c s d m rows tables o P) (fun _ _ => False)
    (awaitChange polls) := by
  induction polls with
  | zero =>
    refine leads_bind leads_takeWake fun woken => ?_
    rintro P ⟨rfl, hP⟩
    exact ⟨fun _ h => by cases h; exact ⟨rfl, hP⟩, nofun⟩
  | succ polls ih =>
    refine leads_bind leads_takeWake fun woken => ?_
    rintro P ⟨rfl, hP⟩
    exact leads_bind (leads_of_returns (watching_tick hm)) (fun _ => ih) P hP

omit hm in
/-- The tasks of the groups are printed. -/
theorem leads_printTasks (gs : List (List Table)) : Leads (Watching c s d m rows tables o)
    (fun _ => Watching c s d m rows tables (o ++ text (taskLines gs d))) (fun _ _ => False)
    (printTasks (gs.map fun g => Connector.taskProps s (d.renderList g))) := by
  generalize htasks : (gs.map fun g => Connector.taskProps s (d.renderList g)) = tasks
  let line (p : Props × Nat) : String := "  task-" ++ toString p.2 ++ ": " ++
    Assignment.taskText ((Assoc.get? p.1 Connector.tablesKey).join.getD "")
  let header := toString tasks.length ++ " task(s):"
  have hlines : taskLines gs d = header :: tasks.zipIdx.map line := by
    subst htasks
    simp [taskLines, header, line, List.zipIdx_map, Connector.get?_taskProps]
  intro P hP
  obtain ⟨hout, hafter⟩ := printed_spec line tasks.zipIdx
    { P with output := P.output ++ header ++ "\n" }
  let Q (r : Except Fault PUnit) (R : Program) :=
    r = .ok ⟨⟩ ∧ Watching c s d m rows tables (o ++ text (taskLines gs d)) R
  have hprinted : Q ((printTasks tasks).outcome P) ((printTasks tasks).after P) := by
    refine views_of_ok (Q := Q) (x := print header)
      (t := { P with output := P.output ++ header ++ "\n" }) rfl rfl ⟨hout, ?_⟩
    refine hafter ▸ (?_ : Watching _ _ _ _ _ _ _ _)
    refine ⟨hP.runs, hP.alike, ?_⟩
    rw [hlines, text, ← hP.output]
    simp only [String.append_assoc]
  exact ⟨fun _ _ => hprinted.2, fun f hf => by cases hprinted.1.symm.trans hf⟩

/-- A program that reads without changing anything is left with what it does then. -/
theorem watching_read {β : Type} {x : Act Connector β}
    {k : Except Fault β → Act Program (Option Nat)} {r : Except Fault β} {status : Option Nat}
    {o' : String}
    (hx : ∀ c : Connector, Meets c.Stays E x) (hP : Watching c s d m rows tables o P)
    (hout : x.outcome P.toConnector = r)
    (hk : Leads (Watching c s d m rows tables o)
      (fun b R => b = status ∧ Watching c s d m rows tables o' R) (fun _ _ => False) (k r)) :
    ((liftM x : Act Program β).attempt >>= k).outcome P = .ok status ∧
      Watching c s d m rows tables o' (((liftM x : Act Program β).attempt >>= k).after P) := by
  have hread := (watching_stays hm hx P hP).1
  obtain ⟨b, hb, rfl, hwatching⟩ := hk.returns hread
  exact views_of_ok (Q := fun r R => r = .ok b ∧ Watching c s d m rows tables o' R)
    ((outcome_attempt ..).trans (congrArg Except.ok ((outcome_liftConnector ..).trans hout)))
    (after_attempt ..) ⟨hb, hwatching⟩

/-- **A round with tasks** is the only one, up to an interrupt. -/
theorem watchRounds_of_ok {n : Int} (hP : Watching c s d m rows tables o P)
    (hout : (Connector.taskSettings n).outcome P.toConnector =
      .ok (gs.map fun g => Connector.taskProps s (d.renderList g))) (rounds polls : Nat) :
    (watchRounds n (rounds + 1) polls).outcome P = .ok none ∧
      Watching c s d m rows tables (o ++ text (taskLines gs d))
        ((watchRounds n (rounds + 1) polls).after P) := by
  refine watching_read hm (fun _ => Connector.stays_taskSettings n) hP hout ?_
  refine leads_bind (leads_printTasks gs) fun _ => ?_
  refine leads_bind (leads_awaitChange hm polls) fun left => ?_
  rintro R ⟨rfl, hR⟩
  exact leads_interrupted hm R hR

/-- A round without tasks ends the program. -/
theorem watchRounds_of_error {n : Int} (hP : Watching c s d m rows tables o P)
    (hout : (Connector.taskSettings n).outcome P.toConnector = .error f)
    (hf : f.isA .discovery = true) (hfailure : f.isFailure = true) (rounds polls : Nat) :
    (watchRounds n (rounds + 1) polls).outcome P = .ok (some 1) ∧
      Watching c s d m rows tables (o ++ text []) ((watchRounds n (rounds + 1) polls).after P) := by
  rw [text, String.append_empty]
  refine watching_read hm (fun _ => Connector.stays_taskSettings n) hP hout ?_
  have hends : Leads (Watching c s d m rows tables o)
      (fun r P => r = some 1 ∧ Watching c s d m rows tables o P) (fun _ _ => False)
      (if f.isFailure then endOn [.discovery] f else interrupted) := by
    rw [if_pos hfailure, endOn, if_pos (by simp [Fault.isAnyOf, hf])]
    exact leads_bind (leads_of_returns (watching_log hm)) fun _ => leads_pure fun _ h => ⟨rfl, h⟩
  exact hends

end Watching

/-! ## Watching from the start to the stop -/

theorem Fresh.ordinary (h : P.Fresh rows) : P.toConnector.Ordinary := ⟨h.steady.closes, h.closing⟩

theorem silent_startWatching :
    Meets (fun P => P.output = o) (fun _ => True) (startWatching env a) :=
  meets_bind (silent_lift (liftM (gatherSettings env a))) fun s =>
    meets_bind (silent_lift (Connector.start s.props)) fun _ => meets_pure _

theorem outcome_stop (hP : P.toConnector.Ordinary) :
    (liftM Connector.stop : Act Program Unit).outcome P = .ok () :=
  (outcome_liftConnector ..).trans (Connector.stop_spec hP).1

/-- A start that fails ends the program. -/
theorem prints_failing (hout : (startWatching env a).outcome P = .error f)
    (hP : ((startWatching env a).after P).toConnector.Ordinary) (hf : f.isA .discovery = true)
    (polls : Nat) : Prints (watch env a polls) P (some 1) [] := by
  refine Prints.attempt (silent_startWatching P rfl).1 ?_
  rw [hout]
  dsimp only
  rw [if_pos hf]
  generalize (startWatching env a).after P = R at hP
  let log : Act Connector Unit := liftM (Site.log .error logger f.message)
  have hlogged : R.toConnector.Stays (log.after R.toConnector) :=
    (Connector.stays_log (E := fun _ => True) R.toConnector (.refl _)).1
  refine Prints.silent ((outcome_liftSite ..).trans (outcome_log ..))
    (silent_lift log R rfl).1 ?_
  refine Prints.silent (outcome_stop ?_) (silent_lift Connector.stop _ rfl).1 prints_pure
  have hafter := after_liftConnector R log
  exact (congrArg toConnector hafter).symm ▸ hlogged.alike.ordinary hP

/-- After a start that returns, the program prints what it prints while it watches. -/
theorem prints_watching {R : Program} {c : Connector} {m : Monitor} {status : Option Nat}
    {lines : List String} {polls : Nat} (hout : (startWatching env a).outcome P = .ok s)
    (hafter : (startWatching env a).after P = R) (hc : c.Ordinary)
    (hrounds : (watchRounds s.tasksMax (polls + 2) polls).outcome R = .ok status ∧
      Watching c s d m rows tables (R.output ++ text lines)
        ((watchRounds s.tasksMax (polls + 2) polls).after R)) :
    Prints (watch env a polls) P status lines := by
  refine Prints.attempt (silent_startWatching P rfl).1 ?_
  rw [hout, hafter]
  obtain ⟨hended, hwatched⟩ := hrounds
  obtain ⟨h₁, h₂⟩ := views_andFinally (outcome_stop (hwatched.alike.ordinary hc))
  refine ⟨h₁.trans hended, ?_⟩
  exact (congrArg output h₂).trans ((silent_lift Connector.stop _ rfl).1.trans hwatched.output)

/-- The settings are gathered, and the connector is started with them. -/
theorem views_startWatching (hP : P.Fresh rows) :
    (∃ f, Settings.ofProps (gathered env a) = .error f ∧
      (startWatching env a).outcome P = .error f ∧
      ((startWatching env a).after P).toConnector.Ordinary) ∨
    ∃ s R, Settings.ofProps (gathered env a) = .ok s ∧ Fresh rows R ∧
      (startWatching env a).outcome P =
        ((Connector.start (gathered env a)).outcome R.toConnector).map (fun _ => s) ∧
      (startWatching env a).after P =
        R.onConnector ((Connector.start (gathered env a)).after R.toConnector) := by
  obtain ⟨hout, site, hsite, hafter⟩ := gather_spec env a P
  have hfresh := hP.onSite hsite
  generalize P.onConnector (P.toConnector.onSite site) = R at hafter hfresh
  rw [startWatching, outcome_bind, after_bind, hout, hafter]
  cases hread : Settings.ofProps (gathered env a) with
  | error f => exact .inl ⟨f, rfl, rfl, hfresh.ordinary⟩
  | ok s =>
    refine .inr ⟨s, R, rfl, hfresh, ?_⟩
    have hprops : s.props = gathered env a := (Settings.read_of_ofProps hread).props
    dsimp only
    rw [outcome_bind, after_bind, outcome_liftConnector, after_liftConnector, hprops]
    cases (Connector.start (gathered env a)).outcome R.toConnector <;> exact ⟨rfl, rfl⟩

/-- After a start with good settings the program watches. -/
theorem watching_start {p : Props} {t : Filter} {ts : List Table} (hP : P.Fresh rows)
    (hgood : Connector.Good p s t d) (hts : d.tablesOfRows rows = .ok ts) :
    let m := s.monitor d t P.timeout
    (Connector.start p).outcome P.toConnector = .ok () ∧
      m.Keeps (Watch.Shows rows (t.apply d ts)) (fun _ => False) ∧
        Watching P.toConnector s d m rows (t.apply d ts) P.output
          (P.onConnector ((Connector.start p).after P.toConnector)) := by
  intro m
  obtain ⟨hout, hruns⟩ := Connector.start_shows hP.dialect hgood hP.steady hP.woken hts
  exact ⟨hout, keeps_shows (m := m) hgood.works hts, hruns, Connector.alike_start _ _, rfl⟩

theorem watch_of_error (hrows : Dialect.NamesTables rows)
    (hwell : ∀ s, Settings.ofProps (gathered env a) = .ok s → s.WellFormed) (hP : P.Fresh rows)
    (h : (Settings.ofProps (gathered env a) >>= fun s => s.shown rows) = .error f)
    (hf : f.isA .discovery = true) (polls : Nat) : Prints (watch env a polls) P (some 1) [] := by
  obtain ⟨g, hread, hout, hordinary⟩ | ⟨s, R, hread, hR, hout, hafter⟩ :=
    views_startWatching hP
  · rw [hread] at h
    cases h
    exact prints_failing hout hordinary hf polls
  · rw [hread] at h
    obtain hunusable | ⟨t, d, ts, ht, hd, hts, hshared, rfl⟩ := Settings.shown_eq_error hrows h
    · rw [Connector.start_of_unusable hR.dialect hread hunusable] at hout
      refine prints_failing hout ?_ hf polls
      rw [hafter]
      exact (Connector.alike_start _ _).ordinary hR.ordinary
    · have hs := Settings.read_of_ofProps hread
      have hgood := good_of_wellFormed hread (hwell s hread) ht hd
      obtain ⟨hstart, hkeeps, hwatching⟩ := watching_start hR hgood hts
      rw [hstart] at hout
      have htasks := (Connector.taskSettings_of_shows hwatching.runs
        (fun hq => Settings.apply_of_queryMode hs ht hq d ts) hs.one_le_tasksMax
        hs.tasksMax_lt).2 hshared
      exact prints_watching hout hafter hR.ordinary
        (watchRounds_of_error hkeeps hwatching htasks rfl rfl (polls + 1) polls)

theorem watch_of_planned
    (hwell : ∀ s, Settings.ofProps (gathered env a) = .ok s → s.WellFormed) (hP : P.Fresh rows)
    (h : (Settings.ofProps (gathered env a) >>= fun s => s.planned rows) = .ok (d, gs))
    (polls : Nat) : Prints (watch env a polls) P none (taskLines gs d) := by
  obtain ⟨g, hread, -, -⟩ | ⟨s, R, hread, hR, hout, hafter⟩ :=
    views_startWatching hP
  · rw [hread] at h
    cases h
  · rw [hread] at h
    obtain ⟨⟨d', tables⟩, hshown, h⟩ := ok_of_bind (show s.planned rows = .ok (d, gs) from h)
    obtain ⟨gs', hassign, h⟩ := ok_of_bind h
    cases h
    obtain ⟨t, ts, ht, hd, hts, rfl, hnodup⟩ := Settings.shown_eq_ok hshown
    have hs := Settings.read_of_ofProps hread
    have hgood := good_of_wellFormed hread (hwell s hread) ht hd
    obtain ⟨hstart, hkeeps, hwatching⟩ := watching_start hR hgood hts
    rw [hstart] at hout
    obtain ⟨gs', hassign', htasks⟩ := (Connector.taskSettings_of_shows hwatching.runs
      (fun hq => Settings.apply_of_queryMode hs ht hq d ts) hs.one_le_tasksMax
      hs.tasksMax_lt).1 hnodup
    cases hassign.symm.trans hassign'
    exact prints_watching hout hafter hR.ordinary
      (watchRounds_of_ok hkeeps hwatching htasks (polls + 1) polls)

end TableDiscovery.Program
