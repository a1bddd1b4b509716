import TableDiscovery.Logs.JsonFormat
import TableDiscovery.Proofs.Json.Line
import TableDiscovery.Proofs.Json.Room

/-!
# Lines of records are read back

A JSON line is read as one object that says what the record says, whatever its message, its names,
its failure and its further attributes hold, as long as all of it can be written. Further attributes
stand in a field of their own and leave the others as they are. A reader may make what it wants of a
surrogate; it joins two of them that are the halves of a pair.

* `Moment.exactText_of_isCivil`: moments of the years 1 to 9999 can be shown;
* `Record.attachAll_of_taken`: what attached attributes leave of a record;
* `Record.Value.Writable`, `Record.Value.read`: attributes that can be written, and what they are
  read as;
* `JsonFormat.lineFields`, `JsonFormat.members_eq`: the fields of a line;
* `JsonFormat.Loggable`, `JsonFormat.exists_line`: records that have a line;
* `JsonFormat.Tells`, `JsonFormat.tells_line`: what a line says about a record;
* **`JsonFormat.format_decodes`**: a line is read as an object that tells what the record holds.
-/

namespace TableDiscovery

open Text

variable {r : Record} {attributes : List (String × Json)} {key : String} {lone : Nat → Char}
  {room : Nat}

namespace Moment

/-- The moments of the years 1 to 9999. -/
def IsCivil (m : Moment) : Prop := -62135596800 ≤ m.seconds ∧ m.seconds < 253402300800

theorem year_civil {day : Int} (h : -719162 ≤ day ∧ day < 2932897) :
    1 ≤ (civil day).1 ∧ (civil day).1 ≤ 9999 := by
  have hera : (day + 719468).fdiv 146097 = (day + 719468) / 146097 :=
    Int.fdiv_eq_ediv_of_nonneg _ (by decide)
  simp only [civil, hera]
  generalize hdoe : (day + 719468 - (day + 719468) / 146097 * 146097).toNat = doe
  split <;> split <;> omega

/-- A moment of these years is shown, with four digits for the year. -/
theorem exactText_of_isCivil {m : Moment} (h : m.IsCivil) : ∃ text, m.exactText = .ok text := by
  obtain ⟨hfirst, hlast⟩ := h
  have hday : m.seconds.fdiv 86400 = m.seconds / 86400 :=
    Int.fdiv_eq_ediv_of_nonneg _ (by decide)
  have hyear : 1 ≤ m.date.1 ∧ m.date.1 ≤ 9999 := year_civil (by omega)
  have hpow : Int.pow 2 31 = 2147483648 := rfl
  have hreached : -Int.pow 2 31 + 1900 ≤ m.date.1 ∧ m.date.1 ≤ lastYear := by
    rw [lastYear, hpow]
    omega
  have hdate : m.date? = .ok m.date := by
    rw [date?]
    exact if_pos (Bool.and_eq_true_iff.mpr
      ⟨decide_eq_true hreached.1, decide_eq_true hreached.2⟩)
  have hshown : (decide (m.date.1 < 1) || decide (9999 < m.date.1)) = false := by
    simp
    omega
  rw [exactText, hdate]
  change ∃ text, (if (decide (m.date.1 < 1) || decide (9999 < m.date.1)) = true then _ else _) = _
  rw [hshown]
  exact ⟨_, rfl⟩

end Moment

namespace Record

/-- A name that is not standard stands for a further attribute, and so does that of a task. -/
theorem attach_of_notMem (r : Record) {key : String} (v : Json)
    (h : key ∉ standardNames ∨ key = "taskName") : r.attach key v = r.note key (.json v) := by
  unfold attach
  obtain h | rfl := h
  · split
    all_goals first | exact absurd (by decide) h | rfl
  · rfl

theorem taken?_cons {v : Json} (h : taken? ((key, v) :: attributes) = none) :
    (key ∉ standardNames ∨ key = "taskName") ∧ taken? attributes = none := by
  rw [taken?, List.map_cons, List.find?_cons] at h
  split at h
  · cases h
  · rename_i hkey
    refine ⟨?_, h⟩
    by_cases hname : key = "taskName"
    · exact .inr hname
    · exact .inl (by simpa [hname] using hkey)

/-- Values as further attributes. -/
def ofValues (attributes : List (String × Json)) : List (String × Value) :=
  attributes.map fun p => (p.1, .json p.2)

/-- Attributes that a call may attach become further attributes and change nothing else. -/
theorem attachAll_of_taken (h : taken? attributes = none) (r : Record) :
    r.attachAll attributes =
      { r with attributes := r.attributes.update (ofValues attributes) } := by
  induction attributes generalizing r with
  | nil => rfl
  | cons p attributes ih =>
    obtain ⟨key, v⟩ := p
    obtain ⟨hkey, hrest⟩ := taken?_cons h
    rw [attachAll, List.foldl_cons, ← attachAll, ih hrest, attach_of_notMem r v hkey]
    rfl

/-- An attribute that can be written with room for some levels, and has no fractions. -/
def Value.Writable (room : Nat) : Value → Prop
  | .json v => v.Plain ∧ Json.Fits .text room v
  | .text _ => True

/-- What an attribute is read as. -/
def Value.read (lone : Nat → Char) : Value → Json
  | .json v => v
  | .text points => .str (Json.decoded lone points)

/-- What an attribute says, where the reader has a character for each surrogate. -/
def Value.said (lone : Nat → Char) : Value → Json
  | .json v => v
  | .text points => .str (.ofList (points.map (Json.charOf lone)))

/-- In a text, no surrogate stands before its other half. -/
def Value.Unpaired : Value → Prop
  | .json _ => True
  | .text points => Json.Unpaired points

theorem Value.read_eq_said {v : Value} (h : v.Unpaired) : v.read lone = v.said lone := by
  cases v with
  | json v => rfl
  | text points => exact congrArg Json.str (Json.decoded_of_unpaired h)

theorem Value.writable_str (room : Nat) (s : String) : (Value.json (.str s)).Writable room :=
  ⟨.str s, .str fun h => absurd h Bool.false_ne_true⟩

end Record

namespace JsonFormat

variable {j : JsonFormat} {message : List CodePoint} {time : Option String} {fault : Option Fault}

/-! ## Members -/

/-- What a member is read as. -/
def Member.read (lone : Nat → Char) : Member → Json
  | .value v => v.read lone
  | .values fields => .obj (fields.map fun p => (p.1, p.2.read lone))

/-- A member that can be written with room for some levels, and has no fractions. -/
inductive Member.Writable : Nat → Member → Prop
  | value {room : Nat} {v : Record.Value} (h : v.Writable room) : Writable room (.value v)
  | values {room : Nat} {fields : List (String × Record.Value)}
    (hkeys : (fields.map (·.1)).Nodup) (h : ∀ p ∈ fields, p.2.Writable room) :
    Writable (room + 1) (.values fields)

theorem denotes_writeValue {v : Record.Value} (h : v.Writable room) :
    Json.Denotes lone (writeValue v) (v.read lone) := by
  cases v with
  | json v => exact Json.denotes_write h.1
  | text points => exact Json.denotes_pointString points

theorem isLine_writeValue {v : Record.Value} (h : v.Writable room) :
    Json.IsLine (writeValue v).toList := by
  cases v with
  | json v => exact Json.isLine_write h.1
  | text points => exact Json.isLine_pointString points

theorem valueObstacle?_eq_none {v : Record.Value} (h : v.Writable room) :
    valueObstacle? room v = none := by
  cases v with
  | json v => exact Json.obstacle?_eq_none_iff.mpr h.2
  | text points => rfl

variable {m : Member}

theorem Member.Writable.denotes (h : m.Writable room) :
    Json.Denotes lone m.write (m.read lone) := by
  cases h with
  | value h => exact denotes_writeValue h
  | values hkeys h => exact Json.denotes_object hkeys fun p hp => denotes_writeValue (h p hp)

theorem Member.Writable.isLine (h : m.Writable room) : Json.IsLine m.write.toList := by
  cases h with
  | value h => exact isLine_writeValue h
  | values hkeys h =>
    exact Json.isLine_object (List.forall_mem_map.mpr fun p hp => isLine_writeValue (h p hp))

theorem Member.Writable.obstacle?_eq_none (h : m.Writable room) : m.obstacle? room = none := by
  cases h with
  | value h => exact valueObstacle?_eq_none h
  | values hkeys h =>
    rw [obstacle?, if_neg (Nat.succ_ne_zero _), List.findSome?_eq_none_iff]
    exact fun p hp => valueObstacle?_eq_none (h p hp)

/-! ## The fields of a line -/

/-- A value of a record as a member. -/
def ofJson (v : Json) : Member := .value (.json v)

/-- The fields that a line may have, in their order. -/
def lineFields (j : JsonFormat) (r : Record) (message : List CodePoint) (time : Option String)
    (fault : Option Fault) : Assoc String (Option Member) :=
  [("level", some (ofJson r.levelName)), ("logger", some (ofJson r.name)),
    ("message", some (.value (.text message))), ("app", some (ofJson (.str j.appName))),
    ("thread", some (ofJson r.thread)), ("timestamp", time.map fun text => ofJson (.str text)),
    ("hostname",
      if j.showsHost && j.hostName ≠ "" then some (ofJson (.str j.hostName)) else none),
    ("source",
      some (ofJson (.obj [("file", r.path), ("line", r.line), ("function", r.function)]))),
    ("exception", fault.map fun f => ofJson (failureFields f)),
    ("context", if r.context.isEmpty then none else some (.values r.context))]

/-- A record that has a line: what it holds can be written and has no fractions, its further
attributes have different names, its time is one of the years 1 to 9999 if it is shown, and what it
holds as its failure is a fault or stands for none. A failure is written on two levels. -/
structure Loggable (j : JsonFormat) (r : Record) : Prop where
  room : 2 ≤ r.room
  level : (Record.Value.json r.levelName).Writable r.room
  logger : (Record.Value.json r.name).Writable r.room
  thread : (Record.Value.json r.thread).Writable r.room
  path : (Record.Value.json r.path).Writable (r.room - 1)
  line : (Record.Value.json r.line).Writable (r.room - 1)
  function : (Record.Value.json r.function).Writable (r.room - 1)
  attributes : ∀ p ∈ r.attributes, p.2.Writable (r.room - 1)
  distinct : (r.attributes.map (·.1)).Nodup
  time : j.showsTime = true → ∃ m, Moment.nearest r.created = .ok m ∧ m.IsCivil
  failure : ∀ f, r.failure = some f → ∃ fault, f.fault? = .ok fault

/-- The time that a line shows. -/
def ShowsTime (j : JsonFormat) (r : Record) : Option String → Prop
  | none => j.showsTime = false
  | some text => j.showsTime = true ∧ timeText r = .ok text

/-- The fault that a record holds as its failure. -/
def fault? (r : Record) : Except Fault (Option Fault) :=
  match r.failure with
  | some f => f.fault?
  | none => .ok none

theorem exists_time (h : j.Loggable r) : ∃ time, j.ShowsTime r time := by
  cases hshows : j.showsTime with
  | false => exact ⟨none, hshows⟩
  | true =>
    obtain ⟨m, hm, hcivil⟩ := h.time hshows
    obtain ⟨text, htext⟩ := Moment.exactText_of_isCivil hcivil
    refine ⟨some text, hshows, ?_⟩
    rw [timeText, hm]
    change m.exactText.mapError Fault.moment = _
    rw [htext]
    rfl

theorem exists_fault (h : j.Loggable r) : ∃ fault, fault? r = .ok fault ∧
    ∀ f, fault = some f ↔ r.failure = some (.fault f) := by
  unfold fault?
  cases hfailure : r.failure with
  | none => exact ⟨none, rfl, by simp⟩
  | some failure =>
    obtain ⟨fault, hfault⟩ := h.failure failure hfailure
    refine ⟨fault, hfault, fun f => ?_⟩
    unfold Record.Failure.fault? at hfault
    split at hfault <;> cases hfault <;> simp

/-- The fields between the message and the further attributes that have a value. -/
def betweenFields (j : JsonFormat) (r : Record) (time : Option String) (fault : Option Fault) :
    List (String × Json) :=
  [("app", .str j.appName), ("thread", r.thread)] ++
    (time.map fun text => ("timestamp", Json.str text)).toList ++
    (if j.showsHost && j.hostName ≠ "" then [("hostname", .str j.hostName)] else []) ++
    [("source", .obj [("file", r.path), ("line", r.line), ("function", r.function)])] ++
    (fault.map fun f => ("exception", failureFields f)).toList

theorem failure_of_fault? (h : fault? r = .ok fault) :
    r.failure = none ∧ fault = none ∨ ∃ f, r.failure = some f ∧ f.fault? = .ok fault := by
  unfold fault? at h
  cases hfailure : r.failure with
  | none =>
    rw [hfailure] at h
    cases h
    exact .inl ⟨rfl, rfl⟩
  | some f =>
    rw [hfailure] at h
    exact .inr ⟨f, rfl, h⟩

theorem laterFields_eq (htime : j.ShowsTime r time) (hfault : fault? r = .ok fault) :
    j.laterFields r = .ok (j.betweenFields r time fault) := by
  have hshown : j.showsTime = time.isSome ∧ ∀ text ∈ time, timeText r = .ok text := by
    cases time with
    | none => exact ⟨htime, fun text h => nomatch h⟩
    | some text => exact ⟨htime.1, fun _ h => Option.mem_some_iff.mp h ▸ htime.2⟩
  obtain ⟨hshows, htext⟩ := hshown
  obtain ⟨hfailure, rfl⟩ | ⟨f, hfailure, hf⟩ := failure_of_fault? hfault
  · cases time with
    | none =>
      simp only [laterFields, hshows, hfailure]
      rfl
    | some text =>
      simp only [laterFields, hshows, htext text rfl, hfailure]
      rfl
  · cases time with
    | none =>
      simp only [laterFields, hshows, hfailure, hf]
      rfl
    | some text =>
      simp only [laterFields, hshows, htext text rfl, hfailure, hf]
      rfl

/-- The members of a line are the fields that have a value. -/
theorem members_eq (hmessage : r.message = .ok message) (htime : j.ShowsTime r time)
    (hfault : fault? r = .ok fault) :
    j.members r = .ok (Assoc.present (j.lineFields r message time fault)) := by
  have hpresent : Assoc.present (j.lineFields r message time fault) =
      [("level", r.levelName), ("logger", r.name)].map plain ++
        ("message", Member.value (.text message)) :: (j.betweenFields r time fault).map plain ++
        (if r.context.isEmpty then [] else [("context", Member.values r.context)]) := by
    unfold lineFields betweenFields
    cases time <;> cases fault <;> split <;> split <;> rfl
  rw [hpresent, members, hmessage, laterFields_eq htime hfault]
  rfl

theorem nodup_lineFields (j : JsonFormat) (r : Record) (message : List CodePoint)
    (time : Option String) (fault : Option Fault) :
    ((j.lineFields r message time fault).map (·.1)).Nodup := by
  simp [lineFields]

/-- A failure is written on two levels. -/
theorem writable_failureFields (f : Fault) (room : Nat) :
    (Record.Value.json (failureFields f)).Writable (room + 2) := by
  have hstr (s : String) (room : Nat) := Record.Value.writable_str room s
  have htrace : ∀ v ∈ [Json.str (Record.faultLine f ++ "\n")], v.Plain ∧ Json.Fits .text room v :=
    List.forall_mem_singleton.mpr (hstr _ _)
  have hfields : ∀ p ∈ [("type", Json.str f.kind.label), ("message", .str f.message),
      ("traceback", .arr [.str (Record.faultLine f ++ "\n")])],
      p.2.Plain ∧ Json.Fits .text (room + 1) p.2 := by
    simp only [List.forall_mem_cons]
    exact ⟨hstr _ _, hstr _ _, ⟨.arr fun v hv => (htrace v hv).1, .arr fun v hv => (htrace v hv).2⟩,
      List.forall_mem_nil _⟩
  exact ⟨.obj (by simp) fun p hp => (hfields p hp).1, .obj fun p hp => (hfields p hp).2⟩

theorem writable_source (h : j.Loggable r) (hroom : r.room = room + 1) :
    (Record.Value.json
      (.obj [("file", r.path), ("line", r.line), ("function", r.function)])).Writable r.room := by
  obtain ⟨-, -, -, -, hpath, hline, hfunction, -⟩ := h
  rw [hroom, Nat.add_sub_cancel] at hpath hline hfunction
  rw [hroom]
  refine ⟨.obj (by simp) ?_, .obj ?_⟩
  · simp only [List.forall_mem_cons]
    exact ⟨hpath.1, hline.1, hfunction.1, List.forall_mem_nil _⟩
  · simp only [List.forall_mem_cons]
    exact ⟨hpath.2, hline.2, hfunction.2, List.forall_mem_nil _⟩

theorem writable_context (h : j.Loggable r) : (Member.values r.context).Writable r.room := by
  obtain ⟨room, hroom⟩ : ∃ k, r.room = k + 1 := Nat.exists_eq_add_of_le' (Nat.le_of_succ_le h.room)
  have hattributes := h.attributes
  rw [hroom, Nat.add_sub_cancel] at hattributes
  rw [hroom]
  exact .values (h.distinct.sublist (List.filter_sublist.map _))
    fun p hp => hattributes p (List.mem_filter.mp hp).1

theorem writable_lineFields (h : j.Loggable r) (message : List CodePoint) (time : Option String)
    (fault : Option Fault) :
    ∀ p ∈ j.lineFields r message time fault, ∀ m ∈ p.2, m.Writable r.room := by
  have hstr (s : String) : (ofJson (.str s)).Writable r.room :=
    .value (Record.Value.writable_str r.room s)
  obtain ⟨room, hroom⟩ : ∃ k, r.room = k + 2 := Nat.exists_eq_add_of_le' h.room
  have hfailure (f : Fault) : (ofJson (failureFields f)).Writable r.room :=
    hroom ▸ .value (writable_failureFields f room)
  unfold lineFields
  simp only [List.forall_mem_cons, Option.mem_some_iff, forall_eq']
  refine ⟨.value h.level, .value h.logger, .value trivial, hstr _, .value h.thread, ?_, ?_,
    .value (writable_source h hroom), ?_, ?_, List.forall_mem_nil _⟩
  · cases time <;> simp [hstr]
  · split <;> simp [hstr]
  · cases fault <;> simp [hfailure]
  · split <;> simp [writable_context h]

/-! ## What a line says -/

/-- The object that a line is read as. -/
def readLine (lone : Nat → Char) (j : JsonFormat) (r : Record) (message : List CodePoint)
    (time : Option String) (fault : Option Fault) : List (String × Json) :=
  (Assoc.present (j.lineFields r message time fault)).map fun p => (p.1, p.2.read lone)

/-- The line of a record, and the object that it is read as. -/
theorem exists_line (h : j.Loggable r) (hmessage : r.message = .ok message)
    (htime : j.ShowsTime r time) (hfault : fault? r = .ok fault) :
    ∃ text, (j.format r).1 = .ok text ∧ Json.IsLine text.toList ∧
      ∀ lone, Json.read? lone text = some (.obj (readLine lone j r message time fault)) := by
  have hkeys := (nodup_lineFields j r message time fault).sublist (Assoc.keys_present _)
  have hwritable : ∀ p ∈ Assoc.present (j.lineFields r message time fault),
      p.2.Writable r.room := by
    intro p hp
    obtain ⟨x, hx, hp⟩ := List.mem_filterMap.mp hp
    obtain ⟨m, hm, rfl⟩ := Option.map_eq_some_iff.mp hp
    exact writable_lineFields h message time fault x hx m hm
  have hnone : (Assoc.present (j.lineFields r message time fault)).findSome?
      (fun p => p.2.obstacle? r.room) = none :=
    List.findSome?_eq_none_iff.mpr fun p hp => (hwritable p hp).obstacle?_eq_none
  refine ⟨Json.object ((Assoc.present (j.lineFields r message time fault)).map fun p =>
    (p.1, p.2.write)), ?_, ?_, fun lone => ?_⟩
  · rw [format, members_eq hmessage htime hfault]
    change (line? _ _).mapError _ = _
    rw [line?, hnone]
    rfl
  · exact Json.isLine_object (List.forall_mem_map.mpr fun p hp => (hwritable p hp).isLine)
  · exact (Json.denotes_object hkeys fun p hp => (hwritable p hp).denotes).read

/-- A name that is shown: it is neither standard nor private. -/
def Shown (name : String) : Prop :=
  name ∉ Record.standardNames ∧ name.toList.head? ≠ some '_'

instance : DecidablePred Shown := fun _ => inferInstanceAs (Decidable (_ ∧ _))

theorem isShown_eq (name : String) : Record.isShown name = decide (Shown name) := by
  have hshown : Record.isShown name = true ↔ Shown name := by
    unfold Shown
    simp [Record.isShown]
  rw [Bool.eq_iff_iff, hshown, decide_eq_true_eq]

/-- What the object of a line says about a record with a message, where the reader has a character
for each surrogate. -/
structure Tells (lone : Nat → Char) (j : JsonFormat) (r : Record) (message : List CodePoint)
    (fields : List (String × Json)) : Prop where
  level : Assoc.get? fields "level" = some r.levelName
  logger : Assoc.get? fields "logger" = some r.name
  message : Assoc.get? fields "message" = some ((Record.Value.text message).said lone)
  app : Assoc.get? fields "app" = some (.str j.appName)
  thread : Assoc.get? fields "thread" = some r.thread
  exception_iff : (Assoc.get? fields "exception").isSome ↔ ∃ f, r.failure = some (.fault f)
  exception : ∀ f, r.failure = some (.fault f) → ∃ e, Assoc.get? fields "exception" = some e ∧
    e.field? "type" = some (.str f.kind.label) ∧ e.field? "message" = some (.str f.message)
  context_iff : (Assoc.get? fields "context").isSome ↔ ∃ p ∈ r.attributes, Shown p.1
  context : ∀ v, Assoc.get? fields "context" = some v →
    v = .obj ((r.attributes.filter fun p => Shown p.1).map fun p => (p.1, p.2.said lone))

theorem get?_readLine (key : String) :
    Assoc.get? (readLine lone j r message time fault) key =
      (Assoc.get? (j.lineFields r message time fault) key).join.map (·.read lone) := by
  rw [readLine, Assoc.get?_mapValues, Assoc.get?_present (nodup_lineFields j r message time fault)]

theorem context_isEmpty (r : Record) :
    r.context.isEmpty = false ↔ ∃ p ∈ r.attributes, Shown p.1 := by
  simp [Record.context, isShown_eq]

/-- **What a line says**, if no text in the record is a pair of surrogates in a row. -/
theorem tells_line (hpaired : Json.Unpaired message)
    (hattributes : ∀ p ∈ r.attributes, Shown p.1 → p.2.Unpaired)
    (hiff : ∀ f, fault = some f ↔ r.failure = some (.fault f)) :
    Tells lone j r message (readLine lone j r message time fault) := by
  have hmessage : (Record.Value.text message).read lone = (Record.Value.text message).said lone :=
    Record.Value.read_eq_said hpaired
  have hexception : Assoc.get? (readLine lone j r message time fault) "exception" =
      fault.map failureFields := by
    rw [get?_readLine]
    cases fault <;> rfl
  have hcontext : Assoc.get? (readLine lone j r message time fault) "context" =
      if r.context.isEmpty then none
      else some (.obj (r.context.map fun p => (p.1, p.2.read lone))) := by
    rw [get?_readLine]
    change (if r.context.isEmpty then none else some (Member.values r.context)).map _ = _
    split <;> rfl
  refine ⟨get?_readLine _, get?_readLine _, (get?_readLine _).trans (congrArg some hmessage),
    get?_readLine _, get?_readLine _, ?_, fun f hf => ?_, ?_, fun v hv => ?_⟩
  · rw [hexception, Option.isSome_map, Option.isSome_iff_exists]
    exact exists_congr hiff
  · rw [hexception, (hiff f).mpr hf]
    exact ⟨_, rfl, rfl, rfl⟩
  · rw [hcontext, ← context_isEmpty]
    cases r.context.isEmpty <;> simp
  · rw [hcontext] at hv
    split at hv <;> cases hv
    have hfilter : r.context = r.attributes.filter fun p => Shown p.1 :=
      List.filter_congr fun p _ => isShown_eq p.1
    rw [hfilter]
    refine congrArg Json.obj (List.map_congr_left fun p hp => ?_)
    obtain ⟨hp, hshown⟩ := List.mem_filter.mp hp
    rw [Record.Value.read_eq_said (hattributes p hp (of_decide_eq_true hshown))]

/-! ## Further attributes -/

/-- Values that are attached besides can be written too. -/
theorem Loggable.attached (h : j.Loggable r)
    (hnew : ∀ p ∈ attributes, (Record.Value.json p.2).Writable (r.room - 1)) :
    j.Loggable { r with attributes := r.attributes.update (Record.ofValues attributes) } where
  __ := h
  attributes p hp := by
    obtain hold | hp := Assoc.mem_update hp
    · exact h.attributes p hold
    · obtain ⟨q, hq, rfl⟩ := List.mem_map.mp hp
      exact hnew q hq
  distinct := Assoc.nodup_update h.distinct _

/-- A field of a line, the one of the further attributes aside, is the same for any of these. -/
theorem get?_lineFields_attributes (attributes : Assoc String Record.Value)
    (hkey : key ≠ "context") :
    Assoc.get? (j.lineFields { r with attributes := attributes } message time fault) key =
      Assoc.get? (j.lineFields r message time fault) key := by
  simp only [lineFields, Assoc.get?, if_neg hkey.symm]

/-- A record with quotes, line breaks and characters beyond ASCII, and with a further attribute that
is named like a field of a line. -/
def oddRecord : Record where
  name := .str "shop.\"orders\""
  levelName := .str "ERROR"
  thread := .str "worker\r\n\x7b\"level\": \"DEBUG\"\x7d"
  path := .str "/app/orders.py"
  line := .int 7
  function := .null
  created := .int 1700000000
  template := .str "refused\n\\ 😀"
  arguments := .ofList []
  failure := some (.fault (.raised .value (some "no \"table\"\n")))
  attributes := [("level", .json (.str "DEBUG")), ("_user", .json .null),
    ("items", .json (.obj [("ids", .arr [.bool true, .str "\x7f"])]))]

theorem loggable_oddRecord : (JsonFormat.mk true true "shop" "host-1").Loggable oddRecord where
  room := by decide
  level := Record.Value.writable_str _ _
  logger := Record.Value.writable_str _ _
  thread := Record.Value.writable_str _ _
  path := Record.Value.writable_str _ _
  line := ⟨.int _, .int (fun h => absurd h Bool.false_ne_true) (by decide +kernel)⟩
  function := ⟨.null, .null fun h => absurd h Bool.false_ne_true⟩
  attributes := by
    have hleaf {p : Prop} (h : Json.Writing.text.countsLeaves = true) : p :=
      absurd h Bool.false_ne_true
    have hids : (Record.Value.json (.arr [.bool true, .str "\x7f"])).Writable 898 := by
      refine ⟨.arr ?_, .arr ?_⟩
      · simp only [List.forall_mem_cons]
        exact ⟨.bool _, .str _, List.forall_mem_nil _⟩
      · simp only [List.forall_mem_cons]
        exact ⟨.bool hleaf, .str hleaf, List.forall_mem_nil _⟩
    simp only [oddRecord, List.forall_mem_cons]
    refine ⟨Record.Value.writable_str _ _, ⟨.null, .null hleaf⟩,
      ⟨.obj (by simp) (List.forall_mem_singleton.mpr hids.1),
        .obj (List.forall_mem_singleton.mpr hids.2)⟩, List.forall_mem_nil _⟩
  distinct := by decide
  time := fun _ => ⟨⟨1700000000, 0⟩, rfl, by decide, by decide⟩
  failure := by
    rintro f hf
    cases hf
    exact ⟨_, rfl⟩

theorem unpaired_points (s : String) : Json.Unpaired (points s) := by
  have hchar (c d : Char) :
      ¬ ((0xd800 ≤ (CodePoint.ofChar c).val ∧ (CodePoint.ofChar c).val < 0xdc00) ∧
        0xdc00 ≤ (CodePoint.ofChar d).val ∧ (CodePoint.ofChar d).val < 0xe000) := by
    have hvalid : c.toNat < 0xd800 ∨ 0xdfff < c.toNat ∧ c.toNat < 0x110000 := c.valid
    have hval : (CodePoint.ofChar c).val = c.toNat := rfl
    omega
  rw [Json.Unpaired, points, List.isChain_map]
  exact (List.pairwise_of_forall hchar).isChain

/-- What keeps a further attribute from being written keeps the line from being written. -/
theorem format_of_obstacle (h : j.Loggable r) (hmessage : r.message = .ok message)
    (htime : j.ShowsTime r time) (hfault : fault? r = .ok fault) (hnone : r.attributes = [])
    {v : Json} {cause : Json.Unwritable} (hkey : Record.isShown key = true)
    (hcause : Json.obstacle? .text (r.room - 1) v = some cause) :
    (j.format (r.note key (.json v))).1 = .error (.ofUnwritable cause) := by
  have hnoted : r.note key (.json v) = { r with attributes := [(key, .json v)] } := by
    rw [Record.note, hnone]
    rfl
  have hcontext : (r.note key (.json v)).context = [(key, .json v)] := by
    rw [hnoted]
    exact List.filter_cons_of_pos hkey
  have hfields : Assoc.present (j.lineFields (r.note key (.json v)) message time fault) =
      Assoc.present ((j.lineFields r message time fault).take 9) ++
        [("context", .values [(key, .json v)])] := by
    unfold lineFields
    rw [hcontext, hnoted]
    cases time <;> cases fault <;> split <;> rfl
  have hfirst : (Assoc.present ((j.lineFields r message time fault).take 9)).findSome?
      (fun p => p.2.obstacle? r.room) = none := by
    refine List.findSome?_eq_none_iff.mpr fun p hp => ?_
    obtain ⟨x, hx, hp⟩ := List.mem_filterMap.mp hp
    obtain ⟨m, hm, rfl⟩ := Option.map_eq_some_iff.mp hp
    exact (writable_lineFields h message time fault x (List.mem_of_mem_take hx) m
      hm).obstacle?_eq_none
  have hlast : (Member.values [(key, Record.Value.json v)]).obstacle? r.room = some cause := by
    have hroom := h.room
    rw [Member.obstacle?, if_neg (by omega), List.findSome?_singleton]
    exact hcause
  have hmembers : j.members (r.note key (.json v)) = .ok _ := members_eq hmessage htime hfault
  rw [format, hmembers, hfields]
  change (line? r.room _).mapError _ = _
  rw [line?, List.findSome?_append, hfirst, List.findSome?_singleton, hlast]
  rfl

/-- A list of lists, so many of them inside each other. -/
def nested : Nat → Json
  | 0 => .arr []
  | levels + 1 => .arr [nested levels]

theorem obstacle?_nested (levels : Nat) :
    Json.obstacle? .text levels (nested levels) = some (.tooDeep Json.Writing.text.task) := by
  induction levels with
  | zero => rfl
  | succ levels ih =>
    rw [nested, Json.obstacle?, if_neg (Nat.succ_ne_zero levels), Nat.add_sub_cancel,
      Json.itemsObstacle?, ih]
    rfl

/-- A record of a level, with a message that may have arguments. -/
def leveled (level template : String) (arguments : List Json) : Record where
  name := .str "shop"
  levelName := .str level
  thread := .str "MainThread"
  path := .str "/app/shop.py"
  line := .null
  function := .null
  created := .null
  template := .str template
  arguments := .ofList arguments

theorem loggable_leveled (level template : String) (arguments : List Json) :
    (JsonFormat.mk false false "shop" "").Loggable (leveled level template arguments) where
  room := show 2 ≤ 900 by decide
  level := Record.Value.writable_str _ _
  logger := Record.Value.writable_str _ _
  thread := Record.Value.writable_str _ _
  path := Record.Value.writable_str _ _
  line := ⟨.null, .null fun h => absurd h Bool.false_ne_true⟩
  function := ⟨.null, .null fun h => absurd h Bool.false_ne_true⟩
  attributes := List.forall_mem_nil _
  distinct := List.nodup_nil
  time := fun h => absurd h Bool.false_ne_true
  failure := fun _ h => nomatch h

end JsonFormat

end TableDiscovery
