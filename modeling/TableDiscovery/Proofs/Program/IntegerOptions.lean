import TableDiscovery.Proofs.Environment
import TableDiscovery.Proofs.Program.Listing
import TableDiscovery.Proofs.Text.Integer

/-!
# Options that are integers

An integer that is given as an option becomes a text in the map of settings, and the text an integer
again. Nothing is lost on the way: zero and negative numbers reach the check of the range, and no
default and no variable takes the place of the option.

* `Props.ValidBut`: settings of which one may be wrong;
* `Settings.ofProps_of_validBut`: reading them comes to reading that one;
* `IntegerOption`: the options, with their settings;
* `text_gathered`: the setting of an option that is given;
* **`integer_options`**: an option is accepted as it is if it is positive, and refused otherwise.
-/

namespace TableDiscovery

open Act CommandLine

namespace Props

variable {p : Props} {key : String} {least n : Int}

/-- All settings are valid but perhaps the one of a key. -/
structure ValidBut (p : Props) (key : String) : Prop where
  url : Text.strip (p.given "connection.url") ≠ ""
  integers : ∀ x ∈ integerSettings, x.1 ≠ key → p.HoldsInteger x.1 x.2

theorem holdsInteger_iff :
    (Text.parseInt? (p.text key)).any (least ≤ ·) = true ↔ p.HoldsInteger key least := by
  rw [Option.any_eq_true]
  exact exists_congr fun n => and_congr_right fun _ => decide_eq_true_iff

instance (p : Props) (key : String) (least : Int) : Decidable (p.HoldsInteger key least) :=
  decidable_of_iff _ holdsInteger_iff

instance (p : Props) (key : String) : Decidable (p.ValidBut key) :=
  decidable_of_iff
    (Text.strip (p.given "connection.url") ≠ "" ∧
      ∀ x ∈ integerSettings, x.1 ≠ key → p.HoldsInteger x.1 x.2)
    ⟨fun h => ⟨h.1, h.2⟩, fun h => ⟨h.url, h.integers⟩⟩

/-- An integer setting that was written for an integer is that integer. -/
theorem integer_of_writeInt {text : String} (hwrite : Text.writeInt? n = some text)
    (htext : p.text key = text) :
    p.integer key least = if n < least then .error (.settingTooSmall n key least) else .ok n := by
  rw [integer, htext, Text.parseInt_of_writeInt hwrite]

theorem eq_of_mem_integerSettings : ∀ x ∈ integerSettings, ∀ y ∈ integerSettings,
    x.1 = y.1 → x = y := by
  decide

end Props

namespace Settings

variable {p : Props} {key : String} {least n : Int} {f : Fault}

/-- Settings of which all but one are valid are accepted with that one, or refused for it. -/
theorem ofProps_of_validBut (hvalid : p.ValidBut key)
    (hkey : (key, least) ∈ Props.integerSettings) :
    (∀ n, p.integer key least = .ok n → ∃ s, ofProps p = .ok s) ∧
      ∀ f, p.integer key least = .error f → ofProps p = .error f := by
  constructor
  · intro n hn
    cases hread : ofProps p with
    | ok s => exact ⟨s, rfl⟩
    | error f =>
      obtain ⟨hurl, -⟩ | ⟨x, hx, hinteger⟩ := fault_of_ofProps hread
      · exact absurd hurl hvalid.url
      · by_cases hname : x.1 = key
        · obtain rfl := Props.eq_of_mem_integerSettings x hx _ hkey hname
          cases hn.symm.trans hinteger
        · exact absurd (hvalid.integers x hx hname) (Props.not_holdsInteger_of_integer hinteger)
  · intro f hf
    obtain ⟨g, hread⟩ : ∃ g, ofProps p = .error g :=
      ofProps_eq_error_iff.mpr (.inl ⟨_, hkey, Props.not_holdsInteger_of_integer hf⟩)
    obtain ⟨hurl, -⟩ | ⟨x, hx, hinteger⟩ := fault_of_ofProps hread
    · exact absurd hurl hvalid.url
    · by_cases hname : x.1 = key
      · obtain rfl := Props.eq_of_mem_integerSettings x hx _ hkey hname
        exact hread.trans (congrArg Except.error (Except.error.inj (hinteger.symm.trans hf)))
      · exact absurd (hvalid.integers x hx hname) (Props.not_holdsInteger_of_integer hinteger)

end Settings

namespace Program

/-- The options for settings that are integers. -/
inductive IntegerOption
  | maxTasks
  | pollInterval
deriving DecidableEq

namespace IntegerOption

/-- What arguments give for an option. -/
def given (o : IntegerOption) (a : Arguments) : Option (Operand Int) :=
  match o with
  | maxTasks => a.maxTasks
  | pollInterval => a.pollInterval

/-- The key of an option. -/
def key : IntegerOption → String
  | maxTasks => "tasks.max"
  | pollInterval => "table.poll.interval.ms"

/-- The setting of an option. -/
def setting (o : IntegerOption) (s : Settings) : Int :=
  match o with
  | maxTasks => s.tasksMax
  | pollInterval => s.pollInterval

end IntegerOption

variable {env : Assoc String String} {a : Arguments} {o : IntegerOption} {n : Int}

theorem key_mem_integerSettings (o : IntegerOption) : (o.key, 1) ∈ Props.integerSettings := by
  cases o <;> decide

theorem integer_setting {p : Props} {s : Settings} (h : Settings.Read p s) (o : IntegerOption) :
    p.integer o.key 1 = .ok (o.setting s) := by
  cases o with
  | maxTasks => exact h.tasksMax
  | pollInterval => exact h.pollInterval

theorem get?_overrides (a : Arguments) (o : IntegerOption) :
    Assoc.get? (overrides a) o.key = some ((o.given a).map integerSetting) := by
  cases o <;> rfl

/-- The setting of an option that is given is its text, whatever the environment holds. -/
theorem text_gathered (h : o.given a = some (.value n)) :
    (gathered env a).text o.key = toString n := by
  have hget : Assoc.get? (gathered env a) o.key = some (some (toString n)) := by
    rw [gathered, Settings.gathers_propsOfEnvironment (Settings.nodup_overrides a),
      Settings.explicitIn, get?_overrides, h]
    rfl
  have hvalue : (gathered env a).value? o.key = some (toString n) := by
    rw [Props.value?, hget]
    exact if_pos (decide_eq_true (Text.toString_ne_empty n))
  rw [Props.text, hvalue, Option.getD_some, Text.strip_toString]

theorem message_settingTooSmall (n : Int) (key : String) :
    (Fault.settingTooSmall n key 1).message =
      "Invalid value " ++ toString n ++ " for configuration '" ++ key ++
        "': must be at least 1" := by
  have hleast : "': must be at least 1" = "': must be at least " ++ toString (1 : Int) := rfl
  rw [hleast, ← String.append_assoc]
  rfl

/-- **Integer options keep their value.** If an integer can be written at all and the other settings
are valid, an option that gives it is read as it: it is the setting that is accepted if it is
positive, and refused as too small otherwise. The environment may say anything about it. -/
theorem integer_options (env : Assoc String String) (a : Arguments) (o : IntegerOption) (n : Int)
    (hdigits : n.natAbs < Nat.pow 10 Text.maxDigits) (hgiven : o.given a = some (.value n))
    (hvalid : (gathered env a).ValidBut o.key) (site : Site) :
    Text.parseInt? ((gathered env a).text o.key) = some n ∧
      (1 ≤ n → ∃ s, (gatherSettings env a).outcome site = .ok s ∧ o.setting s = n) ∧
      (n < 1 → ∃ f, (gatherSettings env a).outcome site = .error f ∧ f.kind = .configuration ∧
        f.message = "Invalid value " ++ toString n ++ " for configuration '" ++ o.key ++
          "': must be at least 1") := by
  have hwrite : Text.writeInt? n = some (toString n) := if_pos hdigits
  have hinteger : (gathered env a).integer o.key 1 =
      if n < 1 then .error (.settingTooSmall n o.key 1) else .ok n :=
    Props.integer_of_writeInt hwrite (text_gathered hgiven)
  have houtcome : (gatherSettings env a).outcome site = Settings.ofProps (gathered env a) :=
    Settings.outcome_ofEnvironment site
  obtain ⟨haccepted, hrefused⟩ := Settings.ofProps_of_validBut hvalid (key_mem_integerSettings o)
  rw [houtcome, text_gathered hgiven]
  refine ⟨Text.parseInt_of_writeInt hwrite, fun hn => ?_, fun hn => ?_⟩
  · rw [if_neg (Int.not_lt.mpr hn)] at hinteger
    obtain ⟨s, hs⟩ := haccepted n hinteger
    have hsetting := integer_setting (Settings.read_of_ofProps hs) o
    exact ⟨s, hs, Except.ok.inj (hsetting.symm.trans hinteger)⟩
  · rw [if_pos hn] at hinteger
    exact ⟨_, hrefused _ hinteger, rfl, message_settingTooSmall n o.key⟩

/-- A URL, a number of tasks that is none, and an interval. -/
def shopVariables : Assoc String String :=
  [("SOURCE_CONNECTION_URL", "postgresql://db/shop"), ("SOURCE_TASKS_MAX", "many"),
    ("SOURCE_TABLE_POLL_INTERVAL_MS", "250")]

/-- Zero tasks are refused although the environment has no number for them; five are accepted. A
negative interval is refused although the environment has a good one. -/
theorem integer_options_shop :
    let idle : Arguments := { maxTasks := some (.value 0) }
    let busy : Arguments := { maxTasks := some (.value 5) }
    let hasty : Arguments := { maxTasks := some (.value 5), pollInterval := some (.value (-1)) }
    (gathered shopVariables idle).ValidBut "tasks.max" ∧
      (∃ f, (gatherSettings shopVariables idle).outcome { } = .error f ∧
        f.message = "Invalid value 0 for configuration 'tasks.max': must be at least 1") ∧
      (∃ s, (gatherSettings shopVariables busy).outcome { } = .ok s ∧ s.tasksMax = 5) ∧
      ∃ f, (gatherSettings shopVariables hasty).outcome { } = .error f ∧
        f.message =
          "Invalid value -1 for configuration 'table.poll.interval.ms': must be at least 1" := by
  intro idle busy hasty
  have hsmall {k : Nat} (hk : 1 ≤ k) (n : Int) (h : n.natAbs < 10) : n.natAbs < Nat.pow 10 k :=
    Nat.lt_of_lt_of_le h (Nat.pow_le_pow_right (show 0 < 10 by decide) hk)
  have hdigits : 1 ≤ Text.maxDigits := by decide
  have hidle : (gathered shopVariables idle).ValidBut "tasks.max" := by decide +kernel
  have hbusy : (gathered shopVariables busy).ValidBut "tasks.max" := by decide +kernel
  have hhasty : (gathered shopVariables hasty).ValidBut "table.poll.interval.ms" := by
    decide +kernel
  obtain ⟨-, -, hnone⟩ := integer_options shopVariables idle .maxTasks 0
    (hsmall hdigits 0 (by decide)) rfl hidle { }
  obtain ⟨-, hfive, -⟩ := integer_options shopVariables busy .maxTasks 5
    (hsmall hdigits 5 (by decide)) rfl hbusy { }
  obtain ⟨-, -, hnegative⟩ := integer_options shopVariables hasty .pollInterval (-1)
    (hsmall hdigits (-1) (by decide)) rfl hhasty { }
  obtain ⟨f, hf, -, hmessage⟩ := hnone (by decide)
  obtain ⟨g, hg, -, hmessage'⟩ := hnegative (by decide)
  exact ⟨hidle, ⟨f, hf, hmessage⟩, hfive (by decide), g, hg, hmessage'⟩

end Program

end TableDiscovery
