import TableDiscovery.Program
import TableDiscovery.Proofs.Aside
import TableDiscovery.Proofs.Connector.Lifecycle

/-!
# What a program prints

A command is run for its exit status and for the lines that it prints; what the connector does
beneath it prints nothing.

* `onConnector`, `silent_lift`: actions of the connector in the program;
* `text`, **`printed_spec`**: lines that are printed one by one;
* `Prints`: the command ends with a status and has printed lines;
* `Prints.silent`, `Prints.attempt`, `Prints.log`, `prints_lines`, `prints_endOn`: what each step of
  a command adds.
-/

namespace TableDiscovery.Program

open Act Snapshot

variable {α β : Type} {P : Program} {o : String}

/-! ## Actions of the connector in the program -/

section Lift

variable (P : Program)

/-- The program with another connector. -/
def onConnector (c : Connector) : Program := { P with toConnector := c }

theorem outcome_liftConnector (x : Act Connector α) :
    (liftM x : Act Program α).outcome P = x.outcome P.toConnector := outcome_zoom ..

theorem after_liftConnector (x : Act Connector α) :
    (liftM x : Act Program α).after P = P.onConnector (x.after P.toConnector) := after_zoom ..

theorem outcome_liftWatch (x : Act Watch α) :
    (liftM x : Act Program α).outcome P = x.outcome P.toWatch :=
  (outcome_liftConnector ..).trans (Connector.outcome_liftWatch ..)

theorem outcome_liftSite (x : Act Site α) :
    (liftM x : Act Program α).outcome P = x.outcome P.toSite :=
  (outcome_liftConnector ..).trans (Connector.outcome_liftSite ..)

theorem after_liftSite (x : Act Site α) :
    (liftM x : Act Program α).after P = P.onConnector (P.toConnector.onSite (x.after P.toSite)) :=
  (after_liftConnector ..).trans (congrArg P.onConnector (Connector.after_liftSite ..))

end Lift

/-- The connector prints nothing. -/
theorem silent_lift (x : Act Connector α) :
    Meets (fun P => P.output = o) (fun _ => True) (liftM x : Act Program α) :=
  meets_zoom fun _ hP => ⟨hP, fun _ _ => trivial⟩

/-! ## Printing -/

/-- Lines as a text. -/
def text : List String → String
  | [] => ""
  | line :: lines => line ++ "\n" ++ text lines

theorem printed_spec (line : β → String) (xs : List β) (P : Program) :
    (xs.forM fun x => print (line x)).outcome P = .ok ⟨⟩ ∧
      (xs.forM fun x => print (line x)).after P =
        { P with output := P.output ++ text (xs.map line) } := by
  induction xs generalizing P with
  | nil =>
    refine ⟨rfl, ?_⟩
    rw [List.map_nil, text, String.append_empty]
    rfl
  | cons x xs ih =>
    obtain ⟨hout, hafter⟩ := ih { P with output := P.output ++ line x ++ "\n" }
    let Q (r : Except Fault PUnit) (R : Program) :=
      r = .ok ⟨⟩ ∧ R = { P with output := P.output ++ text ((x :: xs).map line) }
    refine views_of_ok (Q := Q) (x := print (line x))
      (k := fun _ => xs.forM fun x => print (line x)) rfl rfl ⟨hout, hafter.trans ?_⟩
    simp only [List.map_cons, text, String.append_assoc]

/-- The command ends with a status, if there is one, and prints lines. -/
def Prints (x : Act Program (Option Nat)) (P : Program) (status : Option Nat)
    (lines : List String) : Prop :=
  x.outcome P = .ok status ∧ (x.after P).output = P.output ++ text lines

section Prints

variable {status : Option Nat} {lines : List String}

theorem prints_pure : Prints (pure status) P status [] :=
  ⟨rfl, by rw [text, String.append_empty, after_pure]⟩

/-- After a step that prints nothing it is left to look at the rest. -/
theorem Prints.silent {x : Act Program β} {k : β → Act Program (Option Nat)} {b : β}
    (hout : x.outcome P = .ok b) (hx : (x.after P).output = P.output)
    (hk : Prints (k b) (x.after P) status lines) : Prints (x >>= k) P status lines := by
  obtain ⟨h₁, h₂⟩ := hk
  exact views_of_ok (Q := fun r R => r = .ok status ∧ R.output = P.output ++ text lines) hout rfl
    ⟨h₁, h₂.trans (congrArg (· ++ text lines) hx)⟩

theorem Prints.attempt {x : Act Program β} {k : Except Fault β → Act Program (Option Nat)}
    (hx : (x.after P).output = P.output) (hk : Prints (k (x.outcome P)) (x.after P) status lines) :
    Prints (x.attempt >>= k) P status lines :=
  Prints.silent (outcome_attempt ..) ((congrArg output (after_attempt ..)).trans hx)
    (after_attempt P x ▸ hk)

theorem Prints.log {level : Level} {logger message : String} {k : Unit → Act Program (Option Nat)}
    (hk : ∀ R, Prints (k ()) R status lines) :
    Prints (liftM (Site.log level logger message) >>= k) P status lines :=
  Prints.silent ((outcome_liftSite ..).trans (outcome_log ..))
    (silent_lift (liftM (Site.log level logger message)) P rfl).1 (hk _)

/-- Lines are printed one by one. -/
theorem prints_lines (line : β → String) (xs : List β) {k : PUnit → Act Program (Option Nat)}
    (hk : ∀ R, Prints (k ⟨⟩) R status []) :
    Prints ((xs.forM fun x => print (line x)) >>= k) P status (xs.map line) := by
  obtain ⟨hout, hafter⟩ := printed_spec line xs P
  obtain ⟨h₁, h₂⟩ := hk { P with output := P.output ++ text (xs.map line) }
  rw [text, String.append_empty] at h₂
  exact views_of_ok (Q := fun r R => r = .ok status ∧ R.output = P.output ++ text (xs.map line))
    hout hafter ⟨h₁, h₂⟩

/-- A fault of these kinds ends the program with a status. -/
theorem prints_endOn {kinds : List Kind} {f : Fault} (hf : f.isAnyOf kinds = true) :
    Prints (endOn kinds f) P (some 1) [] := by
  rw [endOn, if_pos hf]
  exact Prints.log fun _ => prints_pure

end Prints

end TableDiscovery.Program
