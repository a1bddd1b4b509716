import TableDiscovery.Pool
import TableDiscovery.Proofs.Aside

/-!
# Who owns a connection

Every connection that connecting has returned is either held or has been closed, once and for all:
nothing is sent on it after that. A connection is half open if it was opened and its session could
not be begun; connecting fails then, and nobody holds it.

* `Event.connection?`, `Event.used?`, `Event.closed?`: what events say of connections;
* `Site.connected`, `Site.halfOpen`, `Site.closings`: the connections on a site;
* `Site.Owned`: one connection is held, or none, and all others have been closed;
* `owned_connect`, `owned_isValid`, `owned_query`, `owned_siteClose`: the steps on the database;
* `Pool.Owned`: the cached connection is the one that is held;
* **`owned_get`**, **`owned_close`**: the provider keeps to that;
* `owned_of_failsToConnect`, `fresh_of_get`: when connecting fails, and after that;
* `Pool.Owns`, `Pool.Free`, `Pool.Holds`: the same without naming the connections.
-/

namespace TableDiscovery

open Act

/-! ## Connections among the events -/

namespace Event

/-- The connection that an event is about. -/
def connection? : Event → Option Nat
  | .session n | .ping n | .query n _ _ | .close n => some n
  | _ => none

/-- The connection that a probe or a query is sent on. -/
def used? : Event → Option Nat
  | .ping n | .query n _ _ => some n
  | _ => none

/-- The connection that is closed. -/
def closed? : Event → Option Nat
  | .close n => some n
  | _ => none

/-- The connection whose session is begun. -/
def session? : Event → Option Nat
  | .session n => some n
  | _ => none

variable {e : Event} {n : Nat}

theorem connection_of_used (h : e.used? = some n) : e.connection? = some n := by
  cases e <;> simp_all [used?, connection?]

theorem connection_of_closed (h : e.closed? = some n) : e.connection? = some n := by
  cases e <;> simp_all [closed?, connection?]

theorem connection_of_session (h : e.session? = some n) : e.connection? = some n := by
  cases e <;> simp_all [session?, connection?]

theorem connection_of_aside (h : e.isAside = true) : e.connection? = none := by
  cases e <;> first | rfl | cases h

/-- An event that is about no connection neither begins a session nor closes anything. -/
theorem of_connection_none (h : e.connection? = none) : e.session? = none ∧ e.closed? = none := by
  cases e <;> first | exact ⟨rfl, rfl⟩ | cases h

end Event

namespace Site

/-- The connections whose session was begun, or tried to, one by one. -/
def sessions (s : Site) : List Nat := s.trace.filterMap Event.session?

/-- The connections whose session could not be begun. -/
def halfOpen (s : Site) : List Nat :=
  (s.sessions.zipIdx.filter fun p => (s.script.session p.2).isSome).map (·.1)

/-- The connections that connecting has returned: those that were opened and are not half open. -/
def connected (s : Site) : List Nat := (List.range' 1 s.opened).filter (· ∉ s.halfOpen)

/-- The connections that have been closed, one by one, whether closing failed or not. -/
def closings (s : Site) : List Nat := s.trace.filterMap Event.closed?

/-- Later on the site, the events `es` have been added. -/
structure Adds (s : Site) (es : List Event) (t : Site) : Prop where
  script : t.script = s.script
  opened : t.opened = s.opened
  asked : t.counts.session = s.counts.session
  trace : t.trace = s.trace ++ es

/-- On the site, a session is begun, or tried to, on connection `n`. -/
structure Tries (s : Site) (n : Nat) (t : Site) : Prop where
  script : t.script = s.script
  opened : t.opened = s.opened
  asked : t.counts.session = s.counts.session + 1
  trace : t.trace = s.trace ++ [.session n]

/-- Later on the site, there are only events that are about no connection. -/
def Apart (s t : Site) : Prop := ∃ es, s.Adds es t ∧ ∀ e ∈ es, e.connection? = none

theorem Apart.refl (s : Site) : s.Apart s :=
  ⟨[], ⟨rfl, rfl, rfl, (List.append_nil _).symm⟩, nofun⟩

theorem Apart.trans {s t u : Site} (h : s.Apart t) (h' : t.Apart u) : s.Apart u := by
  obtain ⟨es, ha, hes⟩ := h
  obtain ⟨fs, ha', hfs⟩ := h'
  refine ⟨es ++ fs, ⟨ha'.script.trans ha.script, ha'.opened.trans ha.opened,
    ha'.asked.trans ha.asked, by rw [ha'.trace, ha.trace, List.append_assoc]⟩, fun e he => ?_⟩
  exact (List.mem_append.mp he).elim (hes e) (hfs e)

theorem Aside.apart {s t : Site} (h : s.Aside t) : s.Apart t := by
  obtain ⟨es, hes, haside⟩ := h.trace
  exact ⟨es, ⟨h.script, h.opened, by rw [h.counts], hes⟩,
    fun e he => Event.connection_of_aside (haside e he)⟩

section Views

variable {s t : Site} {es : List Event} {n : Nat}

theorem nodup_connected (s : Site) : s.connected.Nodup := (List.nodup_range').filter _

theorem mem_connected : n ∈ s.connected ↔ (1 ≤ n ∧ n ≤ s.opened) ∧ n ∉ s.halfOpen := by
  rw [connected, List.mem_filter, List.mem_range'_1, decide_eq_true_iff]
  constructor
  · rintro ⟨⟨h₁, h₂⟩, h⟩
    exact ⟨⟨h₁, by omega⟩, h⟩
  · rintro ⟨⟨h₁, h₂⟩, h⟩
    exact ⟨⟨h₁, by omega⟩, h⟩

theorem Adds.sessions (h : s.Adds es t) :
    t.sessions = s.sessions ++ es.filterMap Event.session? := by
  rw [Site.sessions, h.trace, List.filterMap_append, ← Site.sessions]

theorem Adds.closings (h : s.Adds es t) :
    t.closings = s.closings ++ es.filterMap Event.closed? := by
  rw [Site.closings, h.trace, List.filterMap_append, ← Site.closings]

theorem Tries.sessions (h : s.Tries n t) : t.sessions = s.sessions ++ [n] := by
  rw [Site.sessions, h.trace, List.filterMap_append]
  rfl

theorem Tries.closings (h : s.Tries n t) : t.closings = s.closings := by
  rw [Site.closings, h.trace, List.filterMap_append]
  exact List.append_nil _

theorem Adds.connected (h : s.Adds es t) (hes : es.filterMap Event.session? = []) :
    t.connected = s.connected := by
  rw [Site.connected, Site.connected, halfOpen, halfOpen, h.sessions, hes, List.append_nil,
    h.script, h.opened]

end Views

end Site

/-! ## One connection is held -/

/-- Connecting has returned the connections `cs`. One of them is held, or none; the others have been
closed once, and nothing was sent on them after that. -/
structure Site.Owned (cs : List Nat) (held : Option Nat) (s : Site) : Prop where
  connected : s.connected = cs
  asked : s.counts.session = s.sessions.length
  known : ∀ e ∈ s.trace, ∀ n, e.connection? = some n → 1 ≤ n ∧ n ≤ s.opened
  kept : ∀ n, held = some n → n ∈ cs ∧ n ∉ s.closings
  given : ∀ n ∈ cs, held ≠ some n → n ∈ s.closings
  closed : ∀ n ∈ s.closings, n ∈ cs
  once : s.closings.Nodup
  unused : s.trace.Pairwise fun e e' => ∀ n, e.closed? = some n → e'.used? ≠ some n

namespace Site.Owned

variable {s t : Site} {cs : List Nat} {held : Option Nat} {n : Nat} {e : Event} {es : List Event}

theorem bounds (h : s.Owned cs held) (hn : n ∈ cs) : 1 ≤ n ∧ n ≤ s.opened := by
  rw [← h.connected] at hn
  exact (mem_connected.mp hn).1

theorem bounds_of_halfOpen (h : s.Owned cs held) (hn : n ∈ s.halfOpen) :
    1 ≤ n ∧ n ≤ s.opened := by
  obtain ⟨p, hp, rfl⟩ := List.mem_map.mp hn
  have hsession : p.1 ∈ s.sessions := List.fst_mem_of_mem_zipIdx (List.mem_filter.mp hp).1
  obtain ⟨e, he, hsome⟩ := List.mem_filterMap.mp hsession
  exact h.known e he _ (Event.connection_of_session hsome)

theorem known_append (h : s.Owned cs held) (hopened : t.opened = s.opened)
    (htrace : t.trace = s.trace ++ es) (hes : ∀ e ∈ es, ∀ n, e.connection? = some n → n ∈ cs) :
    ∀ e ∈ t.trace, ∀ n, e.connection? = some n → 1 ≤ n ∧ n ≤ t.opened := by
  intro e he n hn
  rw [htrace] at he
  rw [hopened]
  obtain he | he := List.mem_append.mp he
  · exact h.known e he n hn
  · exact h.bounds (hes e he n hn)

theorem unused_append (h : s.Owned cs held) (htrace : t.trace = s.trace ++ [e])
    (he : e.used? = none) :
    t.trace.Pairwise fun e e' => ∀ n, e.closed? = some n → e'.used? ≠ some n := by
  rw [htrace]
  refine List.pairwise_append.mpr ⟨h.unused, List.pairwise_singleton .., fun _ _ e' he' n _ => ?_⟩
  rw [List.mem_singleton.mp he', he]
  nofun

/-- Events that begin no session and close nothing, and are about no connection but the one that is
held. -/
theorem adds (h : s.Owned cs held) (ha : s.Adds es t)
    (hsession : ∀ e ∈ es, e.session? = none) (hclosed : ∀ e ∈ es, e.closed? = none)
    (hheld : ∀ e ∈ es, ∀ n, e.connection? = some n → held = some n) : t.Owned cs held := by
  have hsessions : es.filterMap Event.session? = [] := List.filterMap_eq_nil_iff.mpr hsession
  have hclosings : t.closings = s.closings := by
    rw [ha.closings, List.filterMap_eq_nil_iff.mpr hclosed, List.append_nil]
  refine
    { connected := (ha.connected hsessions).trans h.connected
      asked := by rw [ha.asked, ha.sessions, hsessions, List.append_nil, h.asked]
      known := h.known_append ha.opened ha.trace fun e he n hn => (h.kept n (hheld e he n hn)).1
      kept := hclosings ▸ h.kept
      given := hclosings ▸ h.given
      closed := hclosings ▸ h.closed
      once := hclosings ▸ h.once
      unused := ?_ }
  rw [ha.trace]
  refine List.pairwise_append.mpr ⟨h.unused, ?_, fun e he e' he' n hn hused => ?_⟩
  · refine List.pairwise_of_forall_mem_list fun e he e' _ n hn => ?_
    cases (hclosed e he).symm.trans hn
  · have hopen := (h.kept n (hheld e' he' n (Event.connection_of_used hused))).2
    exact hopen (List.mem_filterMap.mpr ⟨e, he, hn⟩)

/-- What is about no connection changes nothing. -/
theorem apart (h : s.Owned cs held) (ha : s.Apart t) : t.Owned cs held := by
  obtain ⟨es, hadds, hes⟩ := ha
  refine h.adds hadds (fun e he => (Event.of_connection_none (hes e he)).1)
    (fun e he => (Event.of_connection_none (hes e he)).2) fun e he n hn => ?_
  cases (hes e he).symm.trans hn

/-- The connection that is held is closed. -/
theorem close (h : s.Owned cs (some n)) (ha : s.Adds [.close n] t) : t.Owned cs none := by
  obtain ⟨hmem, hopen⟩ := h.kept n rfl
  have hclosings : t.closings = s.closings ++ [n] := ha.closings
  have hsessions : t.sessions = s.sessions := by
    rw [ha.sessions]
    exact List.append_nil _
  refine
    { connected := (ha.connected rfl).trans h.connected
      asked := by rw [ha.asked, hsessions, h.asked]
      known := h.known_append ha.opened ha.trace fun e he m hm => ?_
      kept := nofun
      given := fun m hm _ => ?_
      closed := fun m hm => ?_
      once := ?_
      unused := h.unused_append ha.trace rfl }
  · cases List.mem_singleton.mp he
    cases hm
    exact hmem
  · rw [hclosings, List.mem_append, List.mem_singleton]
    by_cases hnm : m = n
    · exact .inr hnm
    · exact .inl (h.given m hm fun heq => hnm (Option.some.inj heq).symm)
  · rw [hclosings, List.mem_append, List.mem_singleton] at hm
    obtain hm | rfl := hm
    · exact h.closed m hm
    · exact hmem
  · rw [hclosings]
    refine List.nodup_append.mpr ⟨h.once, List.pairwise_singleton .., fun a ha b hb hab => ?_⟩
    cases List.mem_singleton.mp hb
    exact hopen (hab ▸ ha)

/-- One more connection is opened. -/
theorem opens (h : s.Owned cs none) :
    Owned (cs ++ [s.opened + 1]) (some (s.opened + 1)) { s with opened := s.opened + 1 } := by
  have hclosings : s.opened + 1 ∉ s.closings := by
    intro hmem
    have := h.bounds (h.closed _ hmem)
    omega
  have hhalf : s.opened + 1 ∉ s.halfOpen := by
    intro hmem
    have := h.bounds_of_halfOpen hmem
    omega
  refine
    { connected := ?_
      asked := h.asked
      known := fun e he n hn => (h.known e he n hn).imp_right Nat.le_succ_of_le
      kept := fun n hn => ?_
      given := fun n hn hheld => ?_
      closed := fun n hn => List.mem_append_left _ (h.closed n hn)
      once := h.once
      unused := h.unused }
  · rw [← h.connected]
    show (List.range' 1 (s.opened + 1)).filter (· ∉ s.halfOpen) = _
    rw [List.range'_concat, List.filter_append, Nat.one_mul, Nat.add_comm 1]
    simp [hhalf, Site.connected]
  · cases hn
    exact ⟨List.mem_append_right _ (List.mem_singleton_self _), hclosings⟩
  · obtain hn | hn := List.mem_append.mp hn
    · exact h.given n hn nofun
    · cases List.mem_singleton.mp hn
      exact absurd rfl hheld

/-! ### Sessions -/

variable {m : Nat} (h : s.Owned (cs ++ [n]) (some n)) (hb : s.Tries n t)

include h hb

theorem halfOpen_tries :
    t.halfOpen = s.halfOpen ++ if (s.script.session s.counts.session).isSome then [n] else [] := by
  rw [halfOpen, hb.sessions, hb.script, List.zipIdx_append, List.filter_append, List.map_append,
    ← halfOpen, Nat.zero_add, ← h.asked]
  by_cases hf : (s.script.session s.counts.session).isSome <;> simp [hf]

theorem asked_tries : t.counts.session = t.sessions.length := by
  rw [hb.asked, hb.sessions, List.length_append, h.asked]
  rfl

theorem known_tries :
    ∀ e ∈ t.trace, ∀ m, e.connection? = some m → 1 ≤ m ∧ m ≤ t.opened := by
  refine h.known_append hb.opened hb.trace fun e he m hm => ?_
  cases List.mem_singleton.mp he
  cases hm
  exact (h.kept n rfl).1

/-- The session of the connection that was opened last is begun. -/
theorem session_begun (hf : s.script.session s.counts.session = none) :
    t.Owned (cs ++ [n]) (some n) := by
  have hhalf := h.halfOpen_tries hb
  rw [hf, if_neg nofun, List.append_nil] at hhalf
  exact
    { connected := by rw [← h.connected, Site.connected, Site.connected, hhalf, hb.opened]
      asked := h.asked_tries hb
      known := h.known_tries hb
      kept := hb.closings ▸ h.kept
      given := hb.closings ▸ h.given
      closed := hb.closings ▸ h.closed
      once := hb.closings ▸ h.once
      unused := h.unused_append hb.trace rfl }

/-- The session of the connection that was opened last cannot be begun: nobody holds it, and it is
not closed. -/
theorem session_fails {f : Fault} (hf : s.script.session s.counts.session = some f) :
    t.Owned cs none := by
  have hhalf := h.halfOpen_tries hb
  rw [hf, if_pos Option.isSome_some] at hhalf
  have hn : n ∉ cs := by
    have := h.connected ▸ nodup_connected s
    exact fun hmem => (List.nodup_append.mp this).2.2 n hmem n (List.mem_singleton_self n) rfl
  have hconnected : t.connected = s.connected.filter (· ≠ n) := by
    rw [Site.connected, Site.connected, List.filter_filter, hb.opened, hhalf]
    refine List.filter_congr fun m _ => ?_
    simp [and_comm]
  refine
    { connected := ?_
      asked := h.asked_tries hb
      known := h.known_tries hb
      kept := nofun
      given := fun m hm _ => ?_
      closed := fun m hm => ?_
      once := hb.closings ▸ h.once
      unused := h.unused_append hb.trace rfl }
  · rw [hconnected, h.connected, List.filter_append, List.filter_eq_self.mpr]
    · simp
    · intro m hm
      exact decide_eq_true fun heq => hn (heq ▸ hm)
  · rw [hb.closings]
    exact h.given m (List.mem_append_left _ hm) fun heq => hn (Option.some.inj heq ▸ hm)
  · rw [hb.closings] at hm
    obtain hmem | hmem := List.mem_append.mp (h.closed m hm)
    · exact hmem
    · exact absurd (List.mem_singleton.mp hmem ▸ hm) (h.kept n rfl).2

end Site.Owned

/-! ## The database -/

section Database

variable {cs : List Nat} {n : Nat}

theorem owned_openConnection {target : String} {arguments : List (String × Json)} :
    Leads (Site.Owned cs none) (fun n => Site.Owned (cs ++ [n]) (some n))
      (fun _ => Site.Owned cs none) (Site.openConnection target arguments) := by
  intro s hs
  have hasked (k : Nat) : Site.Owned cs none
      { s with trace := s.trace ++ [.connect target arguments], counts.connect := k } :=
    hs.adds ⟨rfl, rfl, rfl, rfl⟩ (by simp [Event.session?]) (by simp [Event.closed?])
      (by simp [Event.connection?])
  simp only [Site.openConnection, Site.record, after_bind, outcome_bind, after_modify,
    outcome_modify, after_get, outcome_get, after_set, outcome_set]
  cases s.script.connect s.counts.connect with
  | none => exact ⟨fun n hn => by cases hn; exact (hasked _).opens, nofun⟩
  | some f => exact ⟨nofun, fun _ _ => hasked _⟩

theorem owned_beginSession :
    Leads (Site.Owned (cs ++ [n]) (some n)) (fun _ => Site.Owned (cs ++ [n]) (some n))
      (fun _ => Site.Owned cs none) (Site.beginSession n) := by
  intro s hs
  have htries : s.Tries n { s with
      trace := s.trace ++ [.session n], counts.session := s.counts.session + 1 } :=
    ⟨rfl, rfl, rfl, rfl⟩
  simp only [Site.beginSession, Site.record, after_bind, outcome_bind, after_modify,
    outcome_modify, after_get, outcome_get, after_set, outcome_set]
  cases hf : s.script.session s.counts.session with
  | none => exact ⟨fun _ _ => hs.session_begun htries hf, nofun⟩
  | some f => exact ⟨nofun, fun _ _ => hs.session_fails htries hf⟩

/-- Sending something on the connection that is held. -/
theorem owned_send {e : Event} (hsession : e.session? = none) (hclosed : e.closed? = none)
    (hn : e.connection? = some n) :
    Meets (Site.Owned cs (some n)) (fun _ => True) (Site.record e) := by
  refine meets_modify fun s hs => hs.adds ⟨rfl, rfl, rfl, rfl⟩ ?_ ?_ ?_
  · simpa using hsession
  · simpa using hclosed
  · simp [hn]

theorem owned_ping : Meets (Site.Owned cs (some n)) (fun _ => True) (Site.ping n) := by
  refine meets_bind (owned_send rfl rfl rfl) fun _ => meets_get_bind fun s hs => ?_
  exact meets_bind (meets_set { hs with }) fun _ => meets_failWith fun _ _ => trivial

theorem owned_siteQuery {text : String} {parameters : List String} :
    Meets (Site.Owned cs (some n)) (fun _ => True) (Site.query n text parameters) := by
  refine meets_bind (owned_send rfl rfl rfl) fun _ => meets_get_bind fun s hs => ?_
  refine meets_bind (meets_set { hs with }) fun _ => ?_
  dsimp only
  split
  · exact meets_throw trivial
  · exact meets_pure _

theorem owned_siteClose :
    Leads (Site.Owned cs (some n)) (fun _ => Site.Owned cs none) (fun _ => Site.Owned cs none)
      (Site.close n) := by
  refine leads_bind (Q := fun _ => Site.Owned cs none)
    (leads_modify fun s hs => hs.close ⟨rfl, rfl, rfl, rfl⟩) fun _ => ?_
  refine leads_of_meets (E := fun _ => True) (meets_get_bind fun s hs => ?_)
  refine meets_bind (meets_set { hs with }) fun _ => ?_
  refine meets_bind (meets_failWith fun _ _ => trivial) fun _ => ?_
  exact meets_modify fun _ ht => { ht with }

/-- **Connecting returns one more connection, or none if it fails.** -/
theorem owned_connect {d : Dialect} :
    Leads (Site.Owned cs none) (fun n => Site.Owned (cs ++ [n]) (some n))
      (fun _ => Site.Owned cs none) d.connect := by
  unfold Dialect.connect
  split
  · exact leads_throw fun _ h => h
  · exact leads_bind owned_openConnection fun n =>
      leads_bind owned_beginSession fun _ => leads_pure fun _ h => h
  · split
    · exact leads_throw fun _ h => h
    · exact owned_openConnection

theorem owned_isValid {d : Dialect} :
    Meets (Site.Owned cs (some n)) (fun _ => True) (d.isValid (some n)) := by
  have hprobe : Meets (Site.Owned cs (some n)) (fun _ => True) (d.answersProbe n) :=
    meets_attempt_bind owned_ping (fun _ => meets_pure _) fun _ _ =>
      meets_ite (fun _ => meets_pure _) fun _ => meets_throw trivial
  unfold Dialect.isValid
  split
  · exact meets_throw trivial
  · exact meets_pure _
  · rename_i hn
    cases hn
    exact meets_get_bind fun _ _ => meets_ite (fun _ => meets_pure _) fun _ => hprobe
  · rename_i hn
    cases hn
    exact hprobe

theorem owned_aside {α : Type} {E : Fault → Prop} {held : Option Nat} {x : Act Site α}
    (hx : ∀ s : Site, Meets s.Aside E x) : Meets (Site.Owned cs held) E x :=
  meets_of_aside (fun _ _ h ha => h.apart ha.apart) hx

theorem owned_query {d : Dialect} :
    Meets (Site.Owned cs (some n)) (fun _ => True) (d.query n) :=
  meets_bind (owned_aside fun _ => aside_log) fun _ => owned_siteQuery

/-- It does not matter here that the server closes a connection. -/
theorem owned_drop {held : Option Nat} : Meets (Site.Owned cs held) (fun _ => True) Site.drop :=
  meets_get_bind fun _ hs => meets_when (meets_throw trivial) fun _ => meets_set { hs with }

end Database

/-! ## The provider -/

/-- Connecting has returned the connections `cs` and, but for `k` of them, they have been counted.
The cached one is the one that is held, except while it is being opened or closed. -/
structure Pool.Owned (k : Nat) (cs : List Nat) (held cached : Option Nat) (p : Pool) : Prop where
  site : p.toSite.Owned cs held
  cached : p.cached = cached
  counted : cs.length = k + p.connects

section Provider

variable {α : Type} {k n : Nat} {cs : List Nat} {held cached : Option Nat} {E : Fault → Prop}

/-- An action on the site leaves what the pool has beside it. -/
theorem leads_liftPool {P : Site → Prop} {Q : α → Site → Prop} {R : Fault → Site → Prop}
    {J : Pool → Prop} {x : Act Site α} (hx : Leads P Q R x)
    (hJ : ∀ (p : Pool) (s : Site), J p → J { p with toSite := s }) :
    Leads (fun p => P p.toSite ∧ J p) (fun a p => Q a p.toSite ∧ J p)
      (fun f p => R f p.toSite ∧ J p) (liftM x : Act Pool α) := by
  rintro p ⟨hp, hj⟩
  obtain ⟨h₁, h₂⟩ := hx p.toSite hp
  have hafter : (liftM x : Act Pool α).after p = { p with toSite := x.after p.toSite } :=
    after_zoom ..
  have hout : (liftM x : Act Pool α).outcome p = x.outcome p.toSite := outcome_zoom ..
  rw [hafter, hout]
  exact ⟨fun a ha => ⟨h₁ a ha, hJ p _ hj⟩, fun f hf => ⟨h₂ f hf, hJ p _ hj⟩⟩

theorem owned_liftPool {x : Act Site α} (hx : Meets (Site.Owned cs held) E x) :
    Meets (Pool.Owned k cs held cached) E (liftM x : Act Pool α) :=
  meets_zoom fun p hp => ⟨{ hp with site := (hx p.toSite hp.site).1 }, (hx p.toSite hp.site).2⟩

theorem owned_pool_log {level : Level} {logger message : String} :
    Meets (Pool.Owned k cs held cached) E (liftM (Site.log level logger message) : Act Pool Unit) :=
  owned_liftPool (owned_aside fun _ => aside_log)

theorem owned_openNew (p : Provider) :
    Leads (Pool.Owned k cs none none) (fun n => Pool.Owned k (cs ++ [n]) (some n) none)
      (fun _ => Pool.Owned k cs none none) p.openNew := by
  refine leads_bind (Q := fun _ => Pool.Owned k cs none none)
    (leads_ofExcept (fun _ _ h => h) fun _ _ h => h) fun delay => ?_
  have hconnect : Leads (Site.Owned cs none) (fun n => Site.Owned (cs ++ [n]) (some n))
      (fun _ s => s.Owned cs none ∧ True) p.dialect.connect :=
    owned_connect.widen (fun _ _ h => h) fun _ _ h => ⟨h, trivial⟩
  have hattempts : Leads (Site.Owned cs none) (fun n => Site.Owned (cs ++ [n]) (some n))
      (fun _ s => s.Owned cs none ∧ True)
      (Retry.run "connect" (p.policy delay) none p.dialect.connect) :=
    leads_attempts (fun _ _ h ha => h.apart ha.apart) hconnect (fun _ _ _ _ => trivial)
      (fun _ => trivial) 0
  have hretry := leads_liftPool (J := fun q => q.cached = none ∧ cs.length = k + q.connects)
    hattempts fun _ _ h => h
  -- a connection that has been returned is not counted at once
  refine leads_attempt_bind (Q := fun n => Pool.Owned (k + 1) (cs ++ [n]) (some n) none)
    (R := fun _ => Pool.Owned k cs none none)
    (hretry.mono (fun q hq => ⟨hq.site, hq.cached, hq.counted⟩) (fun n q hq => ?_) fun _ q hq => ?_)
    (fun n => ?_) fun f => ?_
  · refine ⟨hq.1, hq.2.1, ?_⟩
    rw [List.length_append, hq.2.2, List.length_singleton]
    omega
  · exact ⟨hq.1.1, hq.2.1, hq.2.2⟩
  · refine leads_bind (Q := fun _ => Pool.Owned k (cs ++ [n]) (some n) none)
      (leads_modify fun q hq => ⟨hq.site, hq.cached, ?_⟩) fun _ => ?_
    · show (cs ++ [n]).length = k + (q.connects + 1)
      rw [hq.counted]
      omega
    · exact leads_bind (leads_of_returns owned_pool_log) fun _ => leads_pure fun _ h => h
  · exact leads_ite (fun _ => leads_throw fun _ h => h) fun _ => leads_throw fun _ h => h

theorem owned_renew (p : Provider) :
    Leads (Pool.Owned k cs none none) (fun n => Pool.Owned k (cs ++ [n]) (some n) (some n))
      (fun _ => Pool.Owned k cs none none) p.renew := by
  refine leads_bind (owned_openNew p) fun n => ?_
  refine leads_bind (Q := fun _ => Pool.Owned k (cs ++ [n]) (some n) (some n)) ?_ fun _ =>
    leads_pure fun _ h => h
  exact leads_modify fun _ hq => ⟨hq.site, rfl, hq.counted⟩

/-- Giving the connection up closes it, whether this fails or not. -/
theorem owned_closeQuietly :
    Leads (Pool.Owned k cs held held) (fun _ => Pool.Owned k cs none none)
      (fun _ => Pool.Owned k cs none none) Provider.closeQuietly := by
  refine leads_get_bind fun q hq => ?_
  cases held with
  | none =>
    rw [hq.cached]
    exact leads_pure fun _ h => h ▸ hq
  | some n =>
    rw [hq.cached]
    refine leads_bind (Q := fun _ => Pool.Owned k cs (some n) none) (leads_modify ?_) fun _ => ?_
    · rintro _ rfl
      exact ⟨hq.site, rfl, hq.counted⟩
    · have hsite : Leads (Site.Owned cs (some n)) (fun _ => Site.Owned cs none)
          (fun _ => Site.Owned cs none) (Site.close n) := owned_siteClose
      have hclose := leads_liftPool (J := fun q => q.cached = none ∧ cs.length = k + q.connects)
        hsite fun _ _ h => h
      refine leads_attempt_bind (Q := fun _ => Pool.Owned k cs none none)
        (R := fun _ => Pool.Owned k cs none none)
        (hclose.mono (fun q hq => ⟨hq.site, hq.cached, hq.counted⟩)
          (fun _ _ h => ⟨h.1, h.2.1, h.2.2⟩) fun _ _ h => ⟨h.1, h.2.1, h.2.2⟩)
        (fun _ => leads_pure fun _ h => h) fun f => ?_
      exact leads_ite (fun _ => leads_of_returns owned_pool_log) fun _ => leads_throw fun _ h => h

/-- **After the provider has closed, no connection is held.** -/
theorem owned_close (p : Provider) :
    Leads (Pool.Owned k cs held held) (fun _ => Pool.Owned k cs none none)
      (fun _ => Pool.Owned k cs none none) p.close := by
  refine leads_get_bind fun q hq => leads_ite (fun _ => ?_) fun _ => ?_
  · refine leads_bind (Q := fun _ => Pool.Owned k cs held held) ?_ fun _ => owned_closeQuietly
    exact (leads_of_returns owned_pool_log).here hq
  · exact owned_closeQuietly.here hq

/-- What becomes of the cached connection after its probe. -/
theorem owned_validated (p : Provider) (valid : Bool) :
    Leads (Pool.Owned k cs (some n) (some n))
      (fun n q => ∃ ds, q.Owned k ds (some n) (some n)) (fun _ => Pool.Owned k cs none none)
      (if valid = true then pure n else do
        Site.log .warning Provider.logger "Cached connection is no longer valid, reconnecting"
        Provider.closeQuietly
        p.renew : Act Pool Nat) := by
  refine leads_ite (fun _ => leads_pure fun _ h => ⟨cs, h⟩) fun _ => ?_
  refine leads_bind (leads_of_returns owned_pool_log) fun _ => ?_
  refine leads_bind owned_closeQuietly fun _ => ?_
  exact (owned_renew p).widen (fun n _ h => ⟨cs ++ [n], h⟩) fun _ _ h => h

/-- **The connection that is got is the cached one, and no closed one.** -/
theorem owned_get (p : Provider) :
    Leads (Pool.Owned k cs held held) (fun n q => ∃ ds, q.Owned k ds (some n) (some n))
      (fun _ q => ∃ ds held, q.Owned k ds held held) p.get := by
  refine leads_get_bind fun q hq => ?_
  cases held with
  | none =>
    rw [hq.cached]
    exact ((owned_renew p).here hq).widen (fun n _ h => ⟨cs ++ [n], h⟩)
      fun _ _ h => ⟨cs, none, h⟩
  | some n =>
    rw [hq.cached]
    have hprobe : Leads (Pool.Owned k cs (some n) (some n))
        (fun _ => Pool.Owned k cs (some n) (some n)) (fun _ q => ∃ ds held, q.Owned k ds held held)
        (liftM (p.dialect.isValid (some n)) : Act Pool Bool) :=
      (leads_of_meets (owned_liftPool owned_isValid)).widen (fun _ _ h => h)
        fun _ _ h => ⟨cs, some n, h⟩
    refine leads_bind (hprobe.here hq) fun valid => ?_
    exact (owned_validated p valid).widen (fun _ _ h => h) fun _ _ h => ⟨cs, none, h⟩

/-- Getting a connection fails, and not in the probe of the cached one. -/
def Provider.FailsToConnect (p : Provider) (q : Pool) : Prop :=
  (∃ f, p.get.outcome q = .error f) ∧
    ∀ n, q.cached = some n → ∃ valid, (p.dialect.isValid (some n)).outcome q.toSite = .ok valid

/-- **After connecting has failed, no connection is held.** -/
theorem owned_of_failsToConnect {p : Provider} {q : Pool} (hq : q.Owned k cs held held)
    (h : p.FailsToConnect q) : (p.get.after q).Owned k cs none none := by
  obtain ⟨⟨f, hf⟩, hprobe⟩ := h
  rw [Provider.get, outcome_bind, outcome_get, after_get] at hf
  rw [Provider.get, after_bind, outcome_get, after_get]
  dsimp only at hf ⊢
  cases held with
  | none =>
    rw [hq.cached] at hf ⊢
    exact (owned_renew p q hq).2 f hf
  | some n =>
    obtain ⟨valid, hvalid⟩ := hprobe n hq.cached
    have hout : (liftM (p.dialect.isValid (some n)) : Act Pool Bool).outcome q = .ok valid :=
      (outcome_zoom ..).trans hvalid
    have hkept := (owned_liftPool (owned_isValid (d := p.dialect)) q hq).1
    rw [hq.cached] at hf ⊢
    dsimp only at hf ⊢
    rw [outcome_bind, hout] at hf
    rw [after_bind, hout]
    exact (owned_validated p valid _ hkept).2 f hf

/-- Without a cached connection, the connection that is got has not been returned before. -/
theorem fresh_of_get {p : Provider} {q : Pool} (hq : q.Owned k cs none none)
    (h : p.get.outcome q = .ok n) : n ∉ cs := by
  rw [Provider.get, outcome_bind, outcome_get, after_get] at h
  dsimp only at h
  rw [hq.cached] at h
  have hnodup := ((owned_renew p q hq).1 n h).site.connected ▸ Site.nodup_connected _
  exact fun hmem => (List.nodup_append.mp hnodup).2.2 n hmem n (List.mem_singleton_self n) rfl

end Provider

/-! ## Pools -/

namespace Pool

/-- The connections are owned, and all but `k` of them have been counted. -/
def Owns (k : Nat) (p : Pool) : Prop := ∃ cs held, p.Owned k cs held held

/-- The connections are owned, and none is held. -/
def Free (k : Nat) (p : Pool) : Prop := ∃ cs, p.Owned k cs none none

/-- The connections are owned, and one with a given number is held. -/
def Holds (k n : Nat) (p : Pool) : Prop := ∃ cs, p.Owned k cs (some n) (some n)

/-- Later the pool has the same connection, and no events are about connections. -/
structure Beside (p q : Pool) : Prop where
  site : p.toSite.Apart q.toSite
  cached : q.cached = p.cached
  connects : q.connects = p.connects

theorem Beside.refl (p : Pool) : p.Beside p := ⟨.refl _, rfl, rfl⟩

theorem Beside.trans {p q r : Pool} (h : p.Beside q) (h' : q.Beside r) : p.Beside r :=
  ⟨h.site.trans h'.site, h'.cached.trans h.cached, h'.connects.trans h.connects⟩

variable {k n : Nat} {cs : List Nat} {held cached : Option Nat} {p q : Pool}

theorem Owned.beside (h : p.Owned k cs held cached) (hb : p.Beside q) :
    q.Owned k cs held cached :=
  ⟨h.site.apart hb.site, hb.cached.trans h.cached, by rw [h.counted, hb.connects]⟩

theorem Owns.beside (h : p.Owns k) (hb : p.Beside q) : q.Owns k := by
  obtain ⟨cs, held, hp⟩ := h
  exact ⟨cs, held, hp.beside hb⟩

theorem Free.beside (h : p.Free k) (hb : p.Beside q) : q.Free k := by
  obtain ⟨cs, hp⟩ := h
  exact ⟨cs, hp.beside hb⟩

theorem Holds.beside (h : p.Holds k n) (hb : p.Beside q) : q.Holds k n := by
  obtain ⟨cs, hp⟩ := h
  exact ⟨cs, hp.beside hb⟩

theorem Free.owns (h : p.Free k) : p.Owns k := by
  obtain ⟨cs, hcs⟩ := h
  exact ⟨cs, none, hcs⟩

theorem Holds.owns (h : p.Holds k n) : p.Owns k := by
  obtain ⟨cs, hcs⟩ := h
  exact ⟨cs, some n, hcs⟩

theorem owns_get (p : Provider) :
    Leads (Owns k) (fun n => Holds k n) (fun _ => Owns k) p.get :=
  fun q ⟨_, _, hq⟩ => owned_get p q hq

theorem owns_close (p : Provider) :
    Leads (Owns k) (fun _ => Free k) (fun _ => Free k) p.close := by
  rintro q ⟨cs, held, hq⟩
  obtain ⟨h₁, h₂⟩ := owned_close p q hq
  exact ⟨fun a ha => ⟨cs, h₁ a ha⟩, fun f hf => ⟨cs, h₂ f hf⟩⟩

/-- No connection has been opened yet. -/
structure Fresh (p : Pool) : Prop where
  cached : p.cached = none
  connects : p.connects = 0
  opened : p.opened = 0
  asked : p.counts.session = 0
  trace : ∀ e ∈ p.trace, e.connection? = none

theorem Fresh.free (h : p.Fresh) : p.Free 0 := by
  have hviews (g : Event → Option Nat) (hg : ∀ e n, g e = some n → e.connection? = some n) :
      p.trace.filterMap g = [] := by
    refine List.filterMap_eq_nil_iff.mpr fun e he => ?_
    cases hn : g e with
    | none => rfl
    | some n => cases (h.trace e he).symm.trans (hg e n hn)
  have hclosings : p.closings = [] := hviews _ fun _ _ => Event.connection_of_closed
  have hsessions : p.sessions = [] := hviews _ fun _ _ => Event.connection_of_session
  refine ⟨[], ⟨?_, ?_, fun e he n hn => ?_, nofun, nofun, ?_, ?_, ?_⟩, h.cached, ?_⟩
  · rw [Site.connected, h.opened]
    rfl
  · rw [h.asked, hsessions]
    rfl
  · cases (h.trace e he).symm.trans hn
  · rw [hclosings]
    exact nofun
  · rw [hclosings]
    exact .nil
  · refine List.pairwise_of_forall_mem_list fun e _ e' he' n _ hused => ?_
    cases (h.trace e' he').symm.trans (Event.connection_of_used hused)
  · rw [h.connects]
    rfl

end Pool

end TableDiscovery
