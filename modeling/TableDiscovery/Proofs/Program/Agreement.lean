import TableDiscovery.Proofs.Program.Watching

/-!
# The commands agree

Listing and planning poll once on a connection of their own. Watching starts a connector and asks it
for the settings of the tasks. On a database that does not change all three come to the same: they
reject the settings or the tables alike, or they show the same tables in the same groups.

* `commands_reject`: what one command rejects is rejected by all;
* **`commands_agree`**: the three commands.
-/

namespace TableDiscovery.Program

open Act Snapshot

variable {P : Program} {env : Assoc String String} {a : Arguments} {rows : List Dialect.Row}
  {f : Fault}

/-- What one command rejects is rejected by all. -/
theorem commands_reject {Q R : Program} (hP : P.Fresh rows) (hQ : Q.Fresh rows) (hR : R.Fresh rows)
    (hrows : Dialect.NamesTables rows)
    (hwell : ∀ s, Settings.ofProps (gathered env a) = .ok s → s.WellFormed)
    (h : (Settings.ofProps (gathered env a) >>= fun s => s.shown rows) = .error f) (polls : Nat) :
    Prints (list env a) P (some 1) [] ∧ Prints (plan env a) Q (some 1) [] ∧
      Prints (watch env a polls) R (some 1) [] := by
  have hf : f.isA .discovery = true := by
    obtain hread | ⟨s, hread, hshown⟩ := error_of_bind h
    · rw [Fault.isA, Settings.kind_of_ofProps hread]
      rfl
    · exact isA_discovery_of_shown (hwell s hread) hrows hshown
  have hplanned : (Settings.ofProps (gathered env a) >>= fun s => s.planned rows) = .error f := by
    obtain hread | ⟨s, hread, hshown⟩ := error_of_bind h
    · rw [hread]
      rfl
    · rw [hread]
      show s.planned rows = .error f
      rw [Settings.planned, hshown]
      rfl
  exact ⟨list_of_error hrows hwell hP h hf, plan_of_error hrows hwell hQ hplanned hf,
    watch_of_error hrows hwell hR h hf polls⟩

/-- **The commands agree.** Three programs begin to list, to plan and to watch with the same
environment and arguments, each on a database that accepts connections and always lists the same
rows, which all name tables; if settings can be read from the environment and the arguments, they
are well-formed. Then either all three end with status 1 and print nothing, which happens only if
there are no settings, filter or dialect or if two of the tables that pass the filter share a name;
or there are groups of tables such that listing prints the tables of all groups one by one, planning
prints the groups, and watching prints the same groups as tasks, whatever its polls are, so that the
two differ in their delimiter only. The groups hold the tables that pass the filter, in their order.
With a query both show the mark of a query and nothing else, and without one no group is empty. And
if two of the tables that pass the filter share a name, all three reject them. -/
theorem commands_agree {Q R : Program} (hP : P.Fresh rows) (hQ : Q.Fresh rows) (hR : R.Fresh rows)
    (hrows : Dialect.NamesTables rows)
    (hwell : ∀ s, Settings.ofProps (gathered env a) = .ok s → s.WellFormed) (polls : Nat) :
    (((∀ s t d ts, Settings.ofProps (gathered env a) = .ok s → s.filter = .ok t →
          s.dialect = .ok d → d.tablesOfRows rows = .ok ts → ∃ n, Shared (t.apply d ts) n) ∧
        Prints (list env a) P (some 1) [] ∧ Prints (plan env a) Q (some 1) [] ∧
        Prints (watch env a polls) R (some 1) []) ∨
      ∃ s t d ts gs, Settings.ofProps (gathered env a) = .ok s ∧ s.filter = .ok t ∧
        s.dialect = .ok d ∧ d.tablesOfRows rows = .ok ts ∧ gs.flatten = t.apply d ts ∧
        Prints (list env a) P none (gs.flatten.map d.render) ∧
        Prints (plan env a) Q none (Assignment.lines gs d) ∧
        Prints (watch env a polls) R none (taskLines gs d) ∧
        (∀ i, ∀ hi : i < gs.length,
          (Assignment.lines gs d)[i]? =
            some ("task-" ++ toString i ++ ": " ++
              Assignment.taskText (d.renderList gs[i] ", ")) ∧
          (taskLines gs d)[i + 1]? =
            some ("  task-" ++ toString i ++ ": " ++
              Assignment.taskText (d.renderList gs[i] ","))) ∧
        (s.queryMode = true → Assignment.lines gs d = ["task-0: <query>"] ∧
          taskLines gs d = ["1 task(s):", "  task-0: <query>"]) ∧
        (s.queryMode = false → ∀ g ∈ gs, g ≠ [])) ∧
    ∀ s t d ts n, Settings.ofProps (gathered env a) = .ok s → s.filter = .ok t →
      s.dialect = .ok d → d.tablesOfRows rows = .ok ts → Shared (t.apply d ts) n →
      Prints (list env a) P (some 1) [] ∧ Prints (plan env a) Q (some 1) [] ∧
        Prints (watch env a polls) R (some 1) [] := by
  constructor
  · rcases h : (Settings.ofProps (gathered env a) >>= fun s => s.shown rows) with f | ⟨d, tables⟩
    · refine .inl ⟨fun s t d ts hread ht hd hts => ?_,
        commands_reject hP hQ hR hrows hwell h polls⟩
      rw [exists_shared_iff]
      intro hnodup
      have hshown := Settings.shown_of_tables ht hd hts
      rw [if_pos hnodup] at hshown
      rw [hread] at h
      cases hshown.symm.trans h
    · obtain ⟨s, hread, hshown⟩ := ok_of_bind h
      have hs := Settings.read_of_ofProps hread
      obtain ⟨t, ts, ht, hd, hts, rfl, -⟩ := Settings.shown_eq_ok hshown
      obtain ⟨gs, hplanned, hflat, hquery, hslices⟩ := Settings.planned_of_shown hs hshown
      have hplan : (Settings.ofProps (gathered env a) >>= fun s => s.planned rows) =
          .ok (d, gs) := by
        rw [hread]
        exact hplanned
      refine .inr ⟨s, t, d, ts, gs, hread, ht, hd, hts, hflat, ?_,
        plan_of_planned hrows hwell hQ hplan, watch_of_planned hwell hR hplan polls,
        fun i hi => ?_, fun hq => ?_, hslices⟩
      · rw [hflat]
        exact list_of_shown hrows hwell hP h
      · exact ⟨Assignment.getElem?_lines d hi, by simp [taskLines, hi]⟩
      · obtain rfl := hquery hq
        exact ⟨rfl, rfl⟩
  · intro s t d ts n hread ht hd hts hshared
    have hnodup : ¬ (names (t.apply d ts)).Nodup := (exists_shared_iff _).mp ⟨n, hshared⟩
    have hshown := Settings.shown_of_tables ht hd hts
    rw [if_neg hnodup] at hshown
    have hrejected : (Settings.ofProps (gathered env a) >>= fun s => s.shown rows) =
        .error (.duplicateTables (ofTables (t.apply d ts)).duplicates t.hint) := by
      rw [hread]
      exact hshown
    exact commands_reject hP hQ hR hrows hwell hrejected polls

/-- The rows of a listing of tables of the shop. -/
def shopRows (names : List String) : List Dialect.Row :=
  names.map fun n => [some "shop", some "public", some n]

/-- A program that begins with the shop's database, which always lists these tables. -/
def shopProgram (names : List String) : Program :=
  { script := { listing := fun _ => { rows := shopRows names } } }

theorem fresh_shopProgram (names : List String) : (shopProgram names).Fresh (shopRows names) :=
  ⟨⟨fun _ => rfl, fun _ => rfl, fun _ => rfl, nofun, fun _ => rfl⟩, rfl, rfl, rfl, nofun⟩

/-- Three tables for two tasks. -/
theorem commands_agree_shop :
    let names := ["items", "orders", "users"]
    let P := shopProgram names
    let env := [("SOURCE_CONNECTION_URL", "postgresql://db/shop")]
    let a : Arguments := { maxTasks := some (.value 2) }
    (P.Fresh (shopRows names) ∧ Dialect.NamesTables (shopRows names) ∧
      ∀ s, Settings.ofProps (gathered env a) = .ok s → s.WellFormed) ∧
    ∃ d gs, Prints (list env a) P none (gs.flatten.map d.render) ∧
      Prints (plan env a) P none (Assignment.lines gs d) ∧
      Prints (watch env a 3) P none (taskLines gs d) ∧
      ((plan env a).after P).output =
        "task-0: \"public\".\"items\", \"public\".\"orders\"\ntask-1: \"public\".\"users\"\n" := by
  intro names P env a
  have hfresh : P.Fresh (shopRows names) := fresh_shopProgram names
  have hrows : Dialect.NamesTables (shopRows names) := by
    intro row hrow
    obtain ⟨name, hname, rfl⟩ := List.mem_map.mp hrow
    refine ⟨_, _, name, [], rfl, ?_⟩
    rintro rfl
    revert hname
    decide
  have hread : (Settings.ofProps (gathered env a)).toOption.map (fun s => (s.url, s.backoff)) =
      some ("postgresql://db/shop", 10000) := by decide +kernel
  have hport :
      ((Url.parse "postgresql://db/shop").toOption.bind (·.port?.toOption)).isSome = true := by
    decide +kernel
  have hwell : ∀ s, Settings.ofProps (gathered env a) = .ok s → s.WellFormed := by
    intro s hs
    rw [hs] at hread
    obtain ⟨hurl, hbackoff⟩ := Prod.mk.inj (Option.some.inj hread)
    obtain ⟨port, hsome⟩ := Option.isSome_iff_exists.mp hport
    obtain ⟨u, hu, hport⟩ := Option.bind_eq_some_iff.mp hsome
    refine ⟨⟨u, port, ?_, eq_ok_of_toOption hport⟩, ?_⟩
    · rw [hurl]
      exact eq_ok_of_toOption hu
    · rw [hbackoff]
      exact ⟨_, rfl⟩
  obtain ⟨hagree, -⟩ := commands_agree hfresh hfresh hfresh hrows hwell 3
  rcases hagree with ⟨-, hrejected, -, -⟩ |
    ⟨s, t, d, ts, gs, -, -, -, -, -, hlist, hplan, hwatch, -⟩
  · have hlisted : ((list env a).outcome P).toOption = some none := by decide +kernel
    rw [hrejected.1] at hlisted
    cases hlisted
  · exact ⟨⟨hfresh, hrows, hwell⟩, d, gs, hlist, hplan, hwatch, by decide +kernel⟩

end TableDiscovery.Program
