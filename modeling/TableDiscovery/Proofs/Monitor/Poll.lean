import TableDiscovery.Proofs.Monitor.Made

/-!
# Polls

A poll lists the tables and publishes those that pass the filter, if they are others than the
published ones. What a poll can do is said once, for each way that its listing can end.

* `Monitor.listing`: what the listing of a poll comes to;
* `Monitor.Ends`: the ways a poll can end, by what its listing comes to;
* **`Monitor.poll_ends`**, `Monitor.poll_host`: there are no other ways, and the host is told
  nothing;
* `Monitor.poll_of_error`, `Monitor.poll_of_ok`: what is published after a poll.
-/

namespace TableDiscovery

open Act

variable {α : Type}

/-! ## Listing -/

theorem told_query (w : Watch) (connection : Nat) (text : String) (parameters : List String) :
    w.Told [.query connection text parameters] ↔
      w.stopping = true ∨ (w.script.listing w.counts.listing).tells = true := by
  simp [Watch.Told, Event.isQuery, Event.isRequest]

theorem made_siteQuery (connection : Nat) (text : String) (parameters : List String) (s : Site) :
    s.Made [.query connection text parameters] ((Site.query connection text parameters).after s) ∧
      (Site.query connection text parameters).outcome s =
        match (s.script.listing s.counts.listing).failure with
        | some (f, .execute) => .error f
        | _ => .ok (s.script.listing s.counts.listing) := by
  simp only [Site.query, Site.record, after_bind, outcome_bind, after_modify, outcome_modify,
    after_get, outcome_get, after_set, outcome_set]
  have made : s.Made [.query connection text parameters]
      { s with
        trace := s.trace ++ [.query connection text parameters]
        counts.listing := s.counts.listing + 1 } :=
    ⟨rfl, by simp [loopCalls, Event.isLoopCall], rfl⟩
  rcases (s.script.listing s.counts.listing).failure with _ | ⟨f, stage⟩
  · exact ⟨made, rfl⟩
  · cases stage <;> exact ⟨made, rfl⟩

theorem made_query (d : Dialect) (connection : Nat) (s : Site) :
    s.Made [.query connection d.listingText d.listingParameters] ((d.query connection).after s) ∧
      (d.query connection).outcome s =
        match (s.script.listing s.counts.listing).failure with
        | some (f, .execute) => .error f
        | _ => .ok (s.script.listing s.counts.listing) := by
  simp only [Dialect.query, after_bind, outcome_bind, outcome_log]
  generalize hs : (Site.log _ _ _).after s = t
  have h₁ : s.Made [] t := hs ▸ made_log _ _ _ s
  obtain ⟨h₂, h₃⟩ := made_siteQuery connection d.listingText d.listingParameters t
  refine ⟨h₁.trans h₂, ?_⟩
  rw [h₃, h₁.script, h₁.listings]
  rfl

/-- Telling the monitor to stop sets its flag and may be logged. -/
theorem shutDown_spec (w : Watch) :
    ∃ s, w.toSite.Made [] s ∧
      Monitor.shutDown.after w = { w with toSite := s, stopping := true } ∧
        Monitor.shutDown.outcome w = .ok () := by
  simp only [Monitor.shutDown, after_bind, outcome_bind, after_get, outcome_get]
  split
  · simp only [after_bind, outcome_bind, after_liftSite, outcome_liftSite, outcome_log]
    exact ⟨_, made_log .., rfl, rfl⟩
  · rename_i h
    refine ⟨w.toSite, .refl _, ?_, rfl⟩
    have : w.stopping = true := by simpa using h
    rw [after_pure, ← this]

/-- A span of its own, with texts for attributes, changes nothing of what an action does. -/
theorem traced_spec (name : String) (kind : Span.Kind) {attributes : List (String × Json)}
    (htold : ∀ room, Tracing.untold? room attributes = none) (x : Act Watch α) (w : Watch) :
    ∃ v, w.Still v ∧ (x.after v).Still ((Tracing.traced name kind attributes x).after w) ∧
      (Tracing.traced name kind attributes x).outcome w = x.outcome v := by
  have hopen : Idle (liftM (Tracing.enter name kind attributes)) () :=
    idle_of_meets fun w => still_liftSite (quiet_enter htold)
  have hclose (leave : Span → Span) : Idle (liftM (Tracing.closeSpan leave)) () :=
    idle_of_meets fun w => still_liftSite quiet_closeSpan
  obtain ⟨h₁, h₂⟩ := hopen w
  obtain ⟨hout, hafter⟩ := traced_views (x := x) h₂ fun leave t => (hclose leave t).2
  exact ⟨_, h₁, hafter ▸ (hclose _ _).1, hout⟩

/-- At most one listing query lies between the states, the same is published, and the host was told
nothing. -/
structure Watch.Listed (w₀ w : Watch) : Prop where
  made : ∃ cs, (cs = [] ∨ ∃ connection text parameters,
    cs = [.query connection text parameters]) ∧ w₀.Made cs w
  snapshot : w.snapshot = w₀.snapshot
  published : w.published = w₀.published
  host : w.host = w₀.host

namespace Watch.Listed

variable {w₀ w v : Watch}

theorem of_still (h : w₀.Still w) : w₀.Listed w :=
  ⟨⟨[], .inl rfl, h.made⟩, h.snapshot, h.published, h.host⟩

theorem after_still (h : w₀.Still w) (h' : w.Listed v) : w₀.Listed v := by
  obtain ⟨cs, hcs, hm⟩ := h'.made
  exact ⟨⟨cs, hcs, h.made.trans hm⟩, h'.snapshot.trans h.snapshot, h'.published.trans h.published,
    h'.host.trans h.host⟩

theorem still (h : w₀.Listed w) (h' : w.Still v) : w₀.Listed v := by
  obtain ⟨cs, hcs, hm⟩ := h.made
  exact ⟨⟨cs, hcs, hm.still h'⟩, h'.snapshot.trans h.snapshot, h'.published.trans h.published,
    h'.host.trans h.host⟩

end Watch.Listed

theorem meets_listed {w₀ : Watch} {E : Fault → Prop} {x : Act Watch α}
    (hx : ∀ w : Watch, Meets w.Still E x) : Meets w₀.Listed E x := by
  intro w hw
  obtain ⟨h₁, h₂⟩ := hx w w (.refl w)
  exact ⟨hw.still h₁, h₂⟩

/-- **A fetch makes one query, and tells the monitor to stop as its listing says.** -/
theorem fetch_spec (m : Monitor) (connection : Nat) (w : Watch) :
    w.Listed ((m.fetch connection).after w) ∧
      (m.fetch connection).outcome w =
        match (w.script.listing w.counts.listing).failure with
        | some (f, .execute) => .error f
        | _ => .ok (w.script.listing w.counts.listing) := by
  obtain ⟨h₁, h₂⟩ := made_query m.dialect connection w.toSite
  simp only [Monitor.fetch, after_bind, outcome_bind, after_liftSite, outcome_liftSite, h₂]
  generalize (m.dialect.query connection).after w.toSite = s at h₁
  have told := told_query w connection m.dialect.listingText m.dialect.listingParameters
  generalize w.script.listing w.counts.listing = l at told
  have made (t : Site) (ht : s.Made [] t) (b : Bool)
      (hb : b = true ↔ w.stopping = true ∨ l.tells = true) :
      w.Listed { w with toSite := t, stopping := b } := by
    have site := h₁.trans ht
    rw [List.append_nil] at site
    refine ⟨⟨[.query connection m.dialect.listingText m.dialect.listingParameters],
      .inr ⟨_, _, _, rfl⟩, ?_⟩, rfl, rfl, rfl⟩
    exact { site := site, reaction := rfl, announces := rfl, requests := rfl,
            stopping := hb.trans told.symm }
  -- a listing that is fetched may tell the monitor to stop
  have fetched (ht : l.tells = l.stopsMonitor) :
      w.Listed (after (if l.stopsMonitor = true then Monitor.shutDown >>= fun _ => pure l
        else pure l) (w.onSite s)) ∧
        outcome (if l.stopsMonitor = true then Monitor.shutDown >>= fun _ => pure l
          else pure l) (w.onSite s) = .ok l := by
    split
    · rename_i h
      obtain ⟨t, h₃, h₄, h₅⟩ := shutDown_spec (w.onSite s)
      simp only [after_bind, outcome_bind, h₅, after_pure, outcome_pure, and_true]
      rw [h₄]
      exact made t h₃ true (by simp [ht, h])
    · rename_i h
      exact ⟨made s (.refl s) w.stopping (by simp [ht, h]), rfl⟩
  rcases hf : l.failure with _ | ⟨f, stage⟩
  · exact fetched (by simp [Listing.tells, hf])
  · cases stage with
    | execute => exact ⟨made s (.refl s) w.stopping (by simp [Listing.tells, hf]), rfl⟩
    | fetch | close => exact fetched (by simp [Listing.tells, hf])

theorem isFailure_of_tableOfRow {d : Dialect} {row : Dialect.Row} {f : Fault}
    (h : d.tableOfRow row = .error f) : f.isFailure = true := by
  unfold Dialect.tableOfRow at h
  split at h
  · split at h
    · cases h
    · cases h
      rfl
  · cases h
    rfl

/-- Rows that name no table are failures. -/
theorem isFailure_of_tablesOfRows {d : Dialect} {rows : List Dialect.Row} {f : Fault}
    (h : d.tablesOfRows rows = .error f) : f.isFailure = true := by
  induction rows with
  | nil => cases h
  | cons row rows ih =>
    simp only [Dialect.tablesOfRows, List.mapM_cons] at h
    cases hrow : d.tableOfRow row with
    | error g =>
      rw [hrow] at h
      cases h
      exact isFailure_of_tableOfRow hrow
    | ok t =>
      cases hrows : rows.mapM d.tableOfRow with
      | error g =>
        rw [hrow, hrows] at h
        cases h
        exact ih hrows
      | ok ts =>
        rw [hrow, hrows] at h
        cases h

theorem mayFail_tablesOf {c : Script} {n : Nat} {d : Dialect} {f : Fault}
    (h : d.tablesOf (c.listing n) = .error f) : c.MayFail f := by
  unfold Dialect.tablesOf at h
  split at h
  · rename_i stage hstage
    cases h
    exact fun ho => ho.listing n f stage hstage
  · exact fun _ => isFailure_of_tablesOfRows h

theorem lookUp_spec (m : Monitor) (w : Watch) :
    w.Listed (m.lookUp.after w) ∧ ∀ f, m.lookUp.outcome w = .error f → w.script.MayFail f := by
  obtain ⟨h₁, h₂⟩ := still_liftPool (quiet_get m.provider) w (.refl w)
  rw [Monitor.lookUp, after_bind, outcome_bind]
  generalize (liftM m.provider.get : Act Watch Nat).after w = v at h₁
  cases hget : (liftM m.provider.get : Act Watch Nat).outcome w with
  | error f => exact ⟨.of_still h₁, fun g hg => by cases hg; exact (h₂ f hget).mayFail⟩
  | ok connection =>
    obtain ⟨h₃, h₄⟩ := fetch_spec m connection v
    have hlisted : w.Listed ((m.fetch connection).after v) := .after_still h₁ h₃
    have hscript : v.script = w.script := h₁.script
    have rest (n : Nat) : Meets w.Listed w.script.MayFail (do
        let tables ← Act.ofExcept (m.dialect.tablesOf (w.script.listing n))
        Tracing.setAttribute "table_count" (.int tables.length)
        return tables : Act Watch (List Table)) :=
      meets_bind (meets_ofExcept fun f hf => mayFail_tablesOf hf) fun tables =>
        meets_bind (meets_listed fun v => still_liftSite quiet_setAttribute) fun _ =>
          meets_pure tables
    dsimp only
    rw [after_bind, outcome_bind, h₄, hscript]
    rcases hf : (w.script.listing v.counts.listing).failure with _ | ⟨f, stage⟩
    · exact rest _ _ hlisted
    · cases stage with
      | execute =>
        refine ⟨hlisted, fun g hg => ?_⟩
        cases hg
        exact fun ho => ho.listing _ f .execute hf
      | fetch | close => exact rest _ _ hlisted

/-- A span can be told a dialect. -/
theorem untold?_dialect (d : Dialect) (room : Nat) :
    Tracing.untold? room [("dialect", .str d.name)] = none := rfl

/-- **A listing makes one query at most, publishes nothing, and its faults are those of the
script.** -/
theorem list_spec (m : Monitor) (w : Watch) :
    w.Listed (m.list.after w) ∧ ∀ f, m.list.outcome w = .error f → w.script.MayFail f := by
  obtain ⟨v, hv, hend, hout⟩ :=
    traced_spec "list_tables" .client (untold?_dialect m.dialect) m.lookUp w
  obtain ⟨hlisted, hfail⟩ := lookUp_spec m v
  refine ⟨.after_still hv (hlisted.still hend), fun f hf => ?_⟩
  have hscript : v.script = w.script := hv.script
  exact hscript ▸ hfail f (hout.symm.trans hf)

/-! ## What becomes of a listing -/

/-- The ways a poll can end that began in `w` and left `v`, by what its listing comes to. -/
inductive Monitor.Ends (m : Monitor) (w v : Watch) :
    Except Fault (List Table) → Except Fault Bool → Prop
  /-- The fault is passed on. -/
  | passed {f : Fault} : m.dialect.isTransient f = false → v.snapshot = w.snapshot →
      v.published = w.published → Ends m w v (.error f) (.error f)
  /-- The poll is skipped: another one may mend the fault. -/
  | skipped {f : Fault} {r : Except Fault Bool} : m.dialect.isTransient f = true →
      v.snapshot = w.snapshot → v.published = w.published → (∀ b, r = .ok b → b = false) →
      (∀ g, r = .error g → w.script.MayFail g) → Ends m w v (.error f) r
  /-- The tables are the published ones. -/
  | kept {ts : List Table} :
      w.snapshot.map (·.tables) = some (m.filter.apply m.dialect ts) →
      v.snapshot = w.snapshot → v.published = w.published → Ends m w v (.ok ts) (.ok false)
  /-- Other tables are published. -/
  | replaced {ts : List Table} :
      w.snapshot.map (·.tables) ≠ some (m.filter.apply m.dialect ts) →
      v.snapshot = some (.ofTables (m.filter.apply m.dialect ts)) →
      v.published = w.published + 1 → Ends m w v (.ok ts) (.ok w.snapshot.isSome)

namespace Monitor

variable {m : Monitor} {u v w : Watch} {l : Except Fault (List Table)} {r : Except Fault Bool}

/-- A poll that lists first ends as one that begins with its listing. -/
theorem Ends.after_listed (h : u.Listed w) (he : m.Ends w v l r) : m.Ends u v l r := by
  have hscript : w.script = u.script := by
    obtain ⟨cs, -, hm⟩ := h.made
    exact hm.script
  obtain ⟨ht, h₁, h₂⟩ | ⟨ht, h₁, h₂, h₃, h₄⟩ | ⟨ht, h₁, h₂⟩ | ⟨ht, h₁, h₂⟩ := he
  · exact .passed ht (h₁.trans h.snapshot) (h₂.trans h.published)
  · exact .skipped ht (h₁.trans h.snapshot) (h₂.trans h.published) h₃
      fun g hg => hscript ▸ h₄ g hg
  · rw [h.snapshot] at ht
    exact .kept ht (h₁.trans h.snapshot) (h₂.trans h.published)
  · rw [h.snapshot] at ht ⊢
    exact .replaced ht h₁ (by rw [h₂, h.published])

/-- What a poll makes of its listing, without a call of the loop or of the host. -/
def Concludes (m : Monitor) (l : Except Fault (List Table)) (w v : Watch)
    (r : Except Fault Bool) : Prop := w.Made [] v ∧ v.host = w.host ∧ m.Ends w v l r

theorem publish_concludes (m : Monitor) (started : Float) (ts : List Table) (w : Watch) :
    m.Concludes (.ok ts) w ((m.publish started ts).after w) ((m.publish started ts).outcome w) := by
  rw [publish, after_bind, outcome_bind]
  simp only [outcome_get, after_get]
  split
  · rename_i hsame
    refine (idle_recordPoll m "unchanged" started).bind (Q := m.Concludes (.ok ts) w) fun v hv => ?_
    exact ⟨hv.made, hv.host, .kept hsame hv.snapshot hv.published⟩
  · rename_i hother
    rw [after_bind, outcome_bind]
    simp only [outcome_modify, after_modify]
    refine (idle_log _ _ _).bind (Q := m.Concludes (.ok ts) w) fun v₁ h₁ => ?_
    refine (idle_recordPoll m _ _).bind (Q := m.Concludes (.ok ts) w) fun v₂ h₂ => ?_
    refine (idle_recordTables m _).bind (Q := m.Concludes (.ok ts) w) fun v₃ h₃ => ?_
    have h := (h₁.trans h₂).trans h₃
    exact ⟨{ h.made with }, h.host, .replaced hother h.snapshot h.published⟩

/-- Giving up the connection may fail, for the script's reasons. -/
theorem skip_concludes (m : Monitor) (started : Float) {f : Fault} (ht : m.dialect.isTransient f)
    (w : Watch) :
    m.Concludes (.error f) w ((m.skip started).after w) ((m.skip started).outcome w) := by
  refine (idle_log _ _ _).bind (Q := m.Concludes (.error f) w) fun v hv => ?_
  obtain ⟨h₁, h₂⟩ := still_liftPool (quiet_close m.provider) v (.refl v)
  have hclosed := hv.trans h₁
  have hscript : v.script = w.script := hv.script
  rw [hscript] at h₂
  rw [after_bind, outcome_bind]
  cases hclose : outcome (liftM m.provider.close) v with
  | error g =>
    refine ⟨hclosed.made, hclosed.host,
      .skipped ht hclosed.snapshot hclosed.published (by rintro b ⟨⟩) ?_⟩
    intro g' hg
    cases hg
    exact (h₂ g hclose).mayFail
  | ok _ =>
    refine (idle_recordPoll m _ _).bind (Q := m.Concludes (.error f) w) fun u hu => ?_
    have h := hclosed.trans hu
    exact ⟨h.made, h.host, .skipped ht h.snapshot h.published (by rintro b ⟨⟩; rfl) nofun⟩

theorem conclude_concludes (m : Monitor) (started : Float) (l : Except Fault (List Table))
    (w : Watch) :
    m.Concludes l w ((m.conclude started l).after w) ((m.conclude started l).outcome w) := by
  cases l with
  | error f =>
    rw [conclude]
    split
    · exact skip_concludes m started ‹_› w
    · rename_i ht
      exact ⟨.refl w, rfl, .passed (by simpa using ht) rfl rfl⟩
  | ok ts =>
    refine (idle_log _ _ _).bind (Q := m.Concludes (.ok ts) w) fun v hv => ?_
    obtain ⟨hmade, hhost, hends⟩ := publish_concludes m started ts v
    exact ⟨hv.made_of hmade, hhost.trans hv.host, hends.after_listed (.of_still hv)⟩

/-! ## Polls -/

/-- What the listing of a poll comes to that begins in `w`. -/
def listing (m : Monitor) (w : Watch) : Except Fault (List Table) :=
  m.list.outcome (w.onSite (Site.now.after w.toSite))

/-- A poll reads the clock, lists the tables and concludes from the listing. -/
theorem poll_views (m : Monitor) (w : Watch) :
    let v := m.list.after (w.onSite (Site.now.after w.toSite))
    let x := m.conclude (w.script.clock w.counts.clock) (m.listing w)
    m.poll.after w = x.after v ∧ m.poll.outcome w = x.outcome v := by
  have hnow : (liftM Site.now : Act Watch Float).outcome w =
      .ok (w.script.clock w.counts.clock) := outcome_liftSite ..
  rw [poll, after_bind, outcome_bind, hnow, after_liftSite]
  dsimp only
  rw [after_bind, outcome_bind, outcome_attempt, after_attempt]
  exact ⟨rfl, rfl⟩

theorem poll_spec (m : Monitor) (w : Watch) :
    ∃ v, w.Listed v ∧ m.Concludes (m.listing w) v (m.poll.after w) (m.poll.outcome w) ∧
      ∀ f, m.listing w = .error f → w.script.MayFail f := by
  obtain ⟨h₁, -⟩ := still_liftSite (E := fun _ => True) quiet_now w (.refl w)
  obtain ⟨h₂, h₃⟩ := list_spec m (w.onSite (Site.now.after w.toSite))
  obtain ⟨hafter, hout⟩ := poll_views m w
  rw [after_liftSite] at h₁
  have hscript : (w.onSite (Site.now.after w.toSite)).script = w.script := h₁.script
  refine ⟨_, .after_still h₁ h₂, ?_, fun f hf => hscript ▸ h₃ f hf⟩
  rw [hafter, hout]
  exact conclude_concludes m _ _ _

/-- **What a poll does follows from its listing.** -/
theorem poll_ends (m : Monitor) (w : Watch) :
    m.Ends w (m.poll.after w) (m.listing w) (m.poll.outcome w) := by
  obtain ⟨v, hv, ⟨-, -, hends⟩, -⟩ := poll_spec m w
  exact hends.after_listed hv

/-- **A poll tells the host nothing.** -/
theorem poll_host (m : Monitor) (w : Watch) : (m.poll.after w).host = w.host := by
  obtain ⟨v, hv, ⟨-, hhost, -⟩, -⟩ := poll_spec m w
  exact hhost.trans hv.host

theorem poll_of_error {f : Fault} (h : m.listing w = .error f) :
    (m.poll.after w).snapshot = w.snapshot ∧ (m.poll.after w).published = w.published ∧
      m.poll.outcome w ≠ .ok true := by
  have hends := poll_ends m w
  rw [h] at hends
  generalize m.poll.outcome w = r at hends
  cases hends with
  | passed _ h₁ h₂ => exact ⟨h₁, h₂, nofun⟩
  | skipped _ h₁ h₂ h₃ => exact ⟨h₁, h₂, fun hr => by cases h₃ true hr⟩

theorem poll_of_ok {ts : List Table} (h : m.listing w = .ok ts) :
    (w.snapshot.map (·.tables) = some (m.filter.apply m.dialect ts) ∧
      (m.poll.after w).snapshot = w.snapshot ∧ (m.poll.after w).published = w.published ∧
        m.poll.outcome w = .ok false) ∨
    (w.snapshot.map (·.tables) ≠ some (m.filter.apply m.dialect ts) ∧
      (m.poll.after w).snapshot = some (.ofTables (m.filter.apply m.dialect ts)) ∧
        (m.poll.after w).published = w.published + 1 ∧
        m.poll.outcome w = .ok w.snapshot.isSome) := by
  have hends := poll_ends m w
  rw [h] at hends
  generalize m.poll.outcome w = r at hends
  cases hends with
  | kept h₁ h₂ h₃ => exact .inl ⟨h₁, h₂, h₃, rfl⟩
  | replaced h₁ h₂ h₃ => exact .inr ⟨h₁, h₂, h₃, rfl⟩

/-- **A poll makes one query at most and no other call of the loop.** -/
theorem poll_made (m : Monitor) (w : Watch) :
    ∃ cs, (cs = [] ∨ ∃ connection text parameters, cs = [.query connection text parameters]) ∧
      w.Made cs (m.poll.after w) := by
  obtain ⟨v, hv, ⟨hmade, -⟩, -⟩ := poll_spec m w
  obtain ⟨cs, hcs, h⟩ := hv.made
  refine ⟨cs, hcs, ?_⟩
  have := h.trans hmade
  rwa [List.append_nil] at this

/-- **What escapes from a poll is no interrupt as long as the script has none.** -/
theorem poll_mayFail {m : Monitor} {w : Watch} {f : Fault} (h : m.poll.outcome w = .error f) :
    w.script.MayFail f := by
  obtain ⟨-, -, -, hfail⟩ := poll_spec m w
  have hends := poll_ends m w
  rw [h] at hends
  generalize hl : m.listing w = l at hends hfail
  cases hends with
  | passed => exact hfail f rfl
  | skipped _ _ _ _ h => exact h f rfl

/-! ## A shop -/

/-- The monitor of a shop's database, for two of its tables. -/
def shop : Monitor where
  provider := ⟨⟨.postgres, "postgresql://db/shop", none, none, ["TABLE"], none⟩, 1, 0⟩
  interval := 1000
  filter := { mode := .allow, names := ["orders", "items"] }

/-- A listing of tables of the shop. -/
def shopListing (names : List String) : Listing :=
  { rows := names.map fun n => [some "shop", some "public", some n] }

/-- A listing during which the connection breaks. -/
def brokenListing : Listing := { failure := some (.raised .connection (some "reset"), .execute) }

/-- The shop's database answers the listings one by one. -/
def shopWatch (ls : List Listing) : Watch := { script := { listing := fun n => ls.getD n { } } }

end Monitor

end TableDiscovery
