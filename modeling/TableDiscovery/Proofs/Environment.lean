import Mathlib.Data.List.Induction
import TableDiscovery.Program
import TableDiscovery.Proofs.Assoc
import TableDiscovery.Proofs.Quiet
import TableDiscovery.Proofs.Settings

/-!
# Settings of the environment

Variables are settings under names of their own: behind the prefix the key stands with underscores
for points, in any case. Several may stand for one key; the last one that is not empty counts,
unless the key is given explicitly.

* `Settings.StandsFor`, `Settings.inherited?`: the variables of a key, and what it has from them;
* `Settings.Gathers`: the maps that hold explicit values over those of variables;
* `Settings.given?`: what the command line gives for a key;
* `ofProps_congr`: reading settings, of the map only what it gives the keys is read;
* **`ofEnvironment_gathers`**: settings are read as those of such a map, and other variables have no
  influence.
-/

namespace TableDiscovery

open Act CommandLine

namespace Settings

variable {start name key : String} {env : Assoc String String} {overrides p q : Props}

/-! ## Variables -/

/-- The name of a variable is the prefix with a text behind it that is the key, with underscores for
points and in any case. -/
def StandsFor (start name key : String) : Prop :=
  ∃ rest, name = start ++ rest ∧
    key.toList = (Text.lower rest).toList.map fun c => if c = '_' then '.' else c

theorem keyOfVariable?_append (start rest : String) :
    keyOfVariable? start (start ++ rest) = some
      (String.ofList ((Text.lower rest).toList.map fun c => if c = '_' then '.' else c)) := by
  have hprefix : start.toList.isPrefixOf (start.toList ++ rest.toList) = true :=
    List.isPrefixOf_iff_prefix.mpr (List.prefix_append ..)
  rw [keyOfVariable?, String.toList_append, if_pos hprefix, ← String.length_toList,
    List.drop_left, String.ofList_toList]

theorem keyOfVariable?_eq_some_iff :
    keyOfVariable? start name = some key ↔ StandsFor start name key := by
  constructor
  · intro h
    obtain ⟨rest, hrest⟩ : start.toList <+: name.toList := by
      rw [← List.isPrefixOf_iff_prefix]
      by_contra hprefix
      rw [keyOfVariable?, if_neg hprefix] at h
      cases h
    have hname : name = start ++ String.ofList rest := by
      rw [← String.toList_inj, String.toList_append, String.toList_ofList, hrest]
    rw [hname, keyOfVariable?_append] at h
    exact ⟨_, hname, by rw [← Option.some.inj h, String.toList_ofList]⟩
  · rintro ⟨rest, rfl, hkey⟩
    rw [keyOfVariable?_append, ← hkey, String.ofList_toList]

instance (start name key : String) : Decidable (StandsFor start name key) :=
  decidable_of_iff _ keyOfVariable?_eq_some_iff

/-- The value of the last variable that stands for a key and is not empty. -/
def inherited? (start : String) (env : Assoc String String) (key : String) : Option String :=
  ((env.filter fun x => x.2 ≠ "" ∧ StandsFor start x.1 key).getLast?).map (·.2)

theorem inherited?_concat (x : String × String) :
    inherited? start (env ++ [x]) key =
      if x.2 ≠ "" ∧ StandsFor start x.1 key then some x.2 else inherited? start env key := by
  rw [inherited?, List.filter_append]
  split
  · rename_i h
    simp [h]
  · rename_i h
    rw [List.filter_cons_of_neg (by simpa using h), List.filter_nil, List.append_nil, inherited?]

theorem propsOfVariables_concat (x : String × String) :
    propsOfVariables start (env ++ [x]) =
      (((if x.2 = "" then none else keyOfVariable? start x.1).map fun key =>
        (propsOfVariables start env).put key (some x.2))).getD (propsOfVariables start env) := by
  rw [propsOfVariables, List.filterMap_append, Assoc.ofList, Assoc.update, List.foldl_append]
  by_cases hx : x.2 = ""
  · simp [hx, propsOfVariables, Assoc.ofList, Assoc.update]
  · cases hkey : keyOfVariable? start x.1 <;>
      simp [hx, hkey, propsOfVariables, Assoc.ofList, Assoc.update]

theorem get?_propsOfVariables :
    Assoc.get? (propsOfVariables start env) key = (inherited? start env key).map some := by
  induction env using List.reverseRecOn with
  | nil => rfl
  | append_singleton env x ih =>
    rw [inherited?_concat, propsOfVariables_concat]
    simp only [← keyOfVariable?_eq_some_iff]
    by_cases hx : x.2 = ""
    · simp [hx, ih]
    · cases hkey : keyOfVariable? start x.1 with
      | none => simp [hx, ih]
      | some k =>
        simp only [hx, if_false, Option.map_some, Option.getD_some, Assoc.get?_put, ih]
        by_cases hk : k = key <;> simp [hx, hk]

/-! ## Reading -/

/-- Reading the settings of two maps that give the keys the same differs in the map that is kept
only. -/
theorem ofProps_congr (h : ∀ key, Assoc.get? q key = Assoc.get? p key) :
    ofProps q = (ofProps p).map fun t => { t with props := q } := by
  have hvalue : q.value? = p.value? := funext fun key => by rw [Props.value?, h, Props.value?]
  have htext : q.text = p.text := funext fun key => by rw [Props.text, hvalue, Props.text]
  have hlist : q.list = p.list := funext fun key => by rw [Props.list, htext, Props.list]
  have htext? : q.text? = p.text? := funext fun key => by rw [Props.text?, htext, Props.text?]
  have hinteger : q.integer = p.integer := by
    funext key least
    rw [Props.integer, htext, Props.integer]
  rw [ofProps, ofProps, hvalue, htext, hlist, htext?, hinteger]
  dsimp only
  split
  · rfl
  · cases p.integer "connection.attempts" 1 with
    | error f => rfl
    | ok attempts =>
    cases p.integer "connection.backoff.ms" 0 with
    | error f => rfl
    | ok backoff =>
    cases p.integer "table.poll.interval.ms" 1 with
    | error f => rfl
    | ok interval =>
    cases p.integer "tasks.max" 1 with
    | error f => rfl
    | ok tasks => simp only [bind, Except.bind, pure, Except.pure, Except.map]

/-! ## Gathering -/

/-- The map gives each key the value that is explicit for it, else the one of its variables, and
holds no other keys. -/
def Gathers (start : String) (env : Assoc String String) (explicit : String → Option String)
    (q : Props) : Prop :=
  ∀ key, Assoc.get? q key = ((explicit key).or (inherited? start env key)).map some

/-- The action reads what a map with such values holds, and there is one, with each key once. -/
def ReadsGathered (x : Act Site Settings) (start : String) (env : Assoc String String)
    (explicit : String → Option String) : Prop :=
  ∃ props, (props.map (·.1)).Nodup ∧ Gathers start env explicit props ∧
    ∀ q, Gathers start env explicit q → ∀ site,
      x.outcome site = (ofProps q).map fun t => { t with props := props }

/-- The values that a map of overrides gives; some of them may be absent. -/
def explicitIn (overrides : Props) (key : String) : Option String :=
  (Assoc.get? overrides key).join

/-- The variable is not empty and has the prefix. -/
def Matters (start : String) (x : String × String) : Prop :=
  x.2 ≠ "" ∧ start.toList <+: x.1.toList

instance (start : String) : DecidablePred (Matters start) := fun _ => by
  unfold Matters
  infer_instance

theorem gathers_propsOfEnvironment (hkeys : (overrides.map (·.1)).Nodup) :
    Gathers start env (explicitIn overrides) (propsOfEnvironment start env overrides) := by
  intro key
  have hgiven : ((overrides.filter fun x => x.2.isSome).map (·.1)).Nodup :=
    hkeys.sublist (List.filter_sublist.map _)
  rw [propsOfEnvironment, Assoc.get?_update hgiven, Assoc.get?_filter_isSome hkeys,
    get?_propsOfVariables, explicitIn]
  cases (Assoc.get? overrides key).join <;> rfl

theorem nodup_propsOfEnvironment :
    ((propsOfEnvironment start env overrides).map (·.1)).Nodup :=
  Assoc.nodup_update (Assoc.nodup_update (m := []) List.nodup_nil _) _

theorem outcome_ofEnvironment (site : Site) :
    (ofEnvironment start env overrides).outcome site =
      ofProps (propsOfEnvironment start env overrides) := by
  rw [ofEnvironment, outcome_bind, outcome_log]
  exact outcome_ofExcept ..

theorem readsGathered_ofEnvironment (hkeys : (overrides.map (·.1)).Nodup) :
    ReadsGathered (ofEnvironment start env overrides) start env (explicitIn overrides) := by
  have hprops : Gathers start env (explicitIn overrides) (propsOfEnvironment start env overrides) :=
    gathers_propsOfEnvironment hkeys
  refine ⟨_, nodup_propsOfEnvironment, hprops, fun q hq site => ?_⟩
  rw [outcome_ofEnvironment, ofProps_congr fun key => (hprops key).trans (hq key).symm]

theorem keyOfVariable?_of_not_prefix (h : ¬ start.toList <+: name.toList) :
    keyOfVariable? start name = none := by
  rw [keyOfVariable?, if_neg (by rwa [List.isPrefixOf_iff_prefix])]

/-- Variables that do not matter may be left out. -/
theorem ofEnvironment_filter :
    ofEnvironment start (env.filter (Matters start ·)) overrides =
      ofEnvironment start env overrides := by
  have hvariables : propsOfVariables start (env.filter (Matters start ·)) =
      propsOfVariables start env := by
    rw [propsOfVariables, propsOfVariables, List.filterMap_filter]
    refine congrArg (fun f => Assoc.ofList (env.filterMap f)) (funext fun x => ?_)
    by_cases hx : Matters start x
    · rw [if_pos (decide_eq_true hx)]
    · rw [if_neg (by simpa using hx)]
      by_cases hempty : x.2 = ""
      · rw [if_pos hempty]
      · rw [if_neg hempty, keyOfVariable?_of_not_prefix fun hprefix => hx ⟨hempty, hprefix⟩]
        rfl
  rw [ofEnvironment, ofEnvironment, propsOfEnvironment, hvariables, propsOfEnvironment]

/-- So may explicit values that are absent. -/
theorem ofEnvironment_filter_overrides :
    ofEnvironment start env (overrides.filter fun x => x.2.isSome) =
      ofEnvironment start env overrides := by
  have hprops : propsOfEnvironment start env (overrides.filter fun x => x.2.isSome) =
      propsOfEnvironment start env overrides := by
    rw [propsOfEnvironment, propsOfEnvironment, List.filter_filter]
    simp only [Bool.and_self]
  rw [ofEnvironment, hprops, ofEnvironment]

theorem nodup_overrides (a : Arguments) :
    ((Program.overrides a).map (·.1)).Nodup := by
  have hkeys : (Program.overrides a).map (·.1) =
      ["connection.url", "connection.user", "connection.password", "dialect.name",
        "table.whitelist", "table.blacklist", "table.types", "schema.pattern", "query",
        "tasks.max", "table.poll.interval.ms"] := rfl
  rw [hkeys]
  decide

/-! ## The command line -/

/-- The text that an option gives. Without a value it gives an empty list, which is no text. -/
def givenText : Operand String → String
  | .value s => s
  | .nothing => ""

/-- The integer that an option gives, in decimal, or the empty list. -/
def givenInteger : Operand Int → String
  | .value n => toString n
  | .nothing => "[]"

/-- What the command line gives a key: there is an option for eleven of them. -/
def given? (a : Arguments) (key : String) : Option String :=
  match key with
  | "connection.url" => a.url.map givenText
  | "connection.user" => a.user.map givenText
  | "connection.password" => a.password.map givenText
  | "dialect.name" => a.dialect.map givenText
  | "table.whitelist" => a.whitelist.map givenText
  | "table.blacklist" => a.blacklist.map givenText
  | "table.types" => a.tableTypes.map givenText
  | "schema.pattern" => a.schemaPattern.map givenText
  | "query" => a.query.map givenText
  | "tasks.max" => a.maxTasks.map givenInteger
  | "table.poll.interval.ms" => a.pollInterval.map givenInteger
  | _ => none

/-- The options are explicit values of the settings. -/
theorem explicitIn_overrides (a : Arguments) : explicitIn (Program.overrides a) = given? a := by
  have htext : Program.textSetting = givenText := funext fun o => by cases o <;> rfl
  have hinteger : Program.integerSetting = givenInteger := funext fun o => by cases o <;> rfl
  funext key
  unfold given?
  rw [← htext, ← hinteger]
  split
  case h_12 =>
    rw [explicitIn, Option.join_eq_none_iff]
    exact .inl (by simp_all [Program.overrides, Assoc.get?, eq_comm])
  all_goals rfl

/-- **Settings of the environment are read as those of one map.** It gives each key its explicit
value, be it empty, else the value of the last variable for it that is not empty, and holds nothing
else. Variables that are empty or have not the prefix, and explicit values that are absent, have no
influence. What the options of the command line give their keys are such explicit values. -/
theorem ofEnvironment_gathers :
    (∀ start env overrides, (overrides.map (·.1)).Nodup →
      ReadsGathered (ofEnvironment start env overrides) start env fun key =>
        (Assoc.get? overrides key).join) ∧
    (∀ start env overrides,
      ofEnvironment start (env.filter (Matters start ·)) (overrides.filter fun x => x.2.isSome) =
        ofEnvironment start env overrides) ∧
    ∀ env a, ReadsGathered (Program.gatherSettings env a) "SOURCE_" env (given? a) ∧
      Program.gatherSettings (env.filter (Matters "SOURCE_" ·)) a =
        Program.gatherSettings env a := by
  refine ⟨fun _ _ _ => readsGathered_ofEnvironment, fun _ _ _ => ?_,
    fun env a => ⟨?_, ofEnvironment_filter⟩⟩
  · rw [ofEnvironment_filter, ofEnvironment_filter_overrides]
  · rw [← explicitIn_overrides]
    exact readsGathered_ofEnvironment (nodup_overrides a)

/-- Variables of which three stand for the URL, one of them empty, and one has not the prefix. -/
def shopEnv : Assoc String String :=
  [("SOURCE_CONNECTION_URL", "postgresql://old/shop"),
    ("SOURCE_connection_url", "postgresql://db/shop"), ("SOURCE_CONNECTION_Url", ""),
    ("source_query", "select 1"), ("SOURCE_TASKS_MAX", "3")]

/-- An explicit value that is empty and one that is absent. -/
def shopOverrides : Props := [("tasks.max", some ""), ("query", none)]

/-- The last URL that is not empty, and one task in place of three. -/
theorem ofEnvironment_gathers_shop :
    (shopOverrides.map (·.1)).Nodup ∧
      ∃ props, Assoc.get? props "connection.url" = some (some "postgresql://db/shop") ∧
        Assoc.get? props "tasks.max" = some (some "") ∧ Assoc.get? props "query" = none ∧
        ∀ site, (ofEnvironment "SOURCE_" shopEnv shopOverrides).outcome site =
          (ofProps props).map fun t => { t with props := props } := by
  have hkeys : (shopOverrides.map (·.1)).Nodup := by decide
  have hurl : inherited? "SOURCE_" shopEnv "connection.url" = some "postgresql://db/shop" := by
    decide +kernel
  have hquery : inherited? "SOURCE_" shopEnv "query" = none := by decide +kernel
  obtain ⟨props, -, hgathers, hreads⟩ :=
    ofEnvironment_gathers.1 "SOURCE_" shopEnv shopOverrides hkeys
  refine ⟨hkeys, props, ?_, hgathers _, ?_, hreads props hgathers⟩
  · rw [hgathers, hurl]
    rfl
  · rw [hgathers, hquery]
    rfl

end Settings

end TableDiscovery
