import TableDiscovery.Logs.Setup
import TableDiscovery.Proofs.Act
import TableDiscovery.Proofs.Assoc

/-!
# Formatters that share a record

A formatter notes on a record what it has worked out, among the attributes that calls attach, and
the console renames the level while it makes a line. All notes have names of standard attributes,
which are not among those that lines show, and what is noted of a failure is what would be worked
out again. So each line is the one that a fresh record gives, after lines that could not be made
too.

* `Record.Alike`: records that differ in standard attributes only, and in none that a line tells;
* `PlainFormat.words`: the failure of a record in words, noted or worked out;
* `PlainFormat.line_eq`, `ConsoleFormat.line_eq`: what a line is made of;
* `Layout.alike_format`, `Layout.format_congr`: one formatter;
* `Layout.formatAll`, **`Layout.formatAll_spec`**: any number of them, one after another;
* `Logging.handle_spec`, `Logging.emit_eq`: handlers that format a record and write the line;
* `Logging.emit_reverse`: a console and a file in either order;
* **`formats_independent`**: lines do not depend on those before, and the handlers of a setup may
  come in either order.
-/

namespace TableDiscovery

open Act Text

variable {r r' r'' : Record}

/-! ## What formatters leave behind -/

namespace PlainFormat

/-- The failure of a record in words, as a line tells it. -/
def words (r : Record) : Except Fault (Option Record.Value) := (noteFailure r).map notedFailure?

theorem notedFailure?_note {key : String} (h : key ≠ "exc_text") (r : Record) (v : Record.Value) :
    notedFailure? (r.note key v) = notedFailure? r := by
  rw [notedFailure?, Record.note, Assoc.get?_put, if_neg h, notedFailure?]

theorem notedFailure?_noteText (r r' : Record) (v : Record.Value) :
    notedFailure? (r.note "exc_text" v) = notedFailure? (r'.note "exc_text" v) := by
  simp only [notedFailure?, Record.note, Assoc.get?_put, if_true]

/-- Of a record the words depend on the failure, and on what has been noted of it. -/
theorem words_congr (hnoted : notedFailure? r' = notedFailure? r)
    (hfailure : r'.failure = r.failure) : words r' = words r := by
  unfold words noteFailure
  rw [hfailure]
  cases hn : notedFailure? r with
  | some v =>
    rw [hnoted, hn]
    exact congrArg Except.ok hnoted
  | none =>
    rw [hnoted, hn]
    cases r.failure with
    | none => exact congrArg Except.ok hnoted
    | some f =>
      dsimp only
      cases f.text with
      | error g => rfl
      | ok s => exact congrArg Except.ok (notedFailure?_noteText ..)

/-- A failure that has been noted is told in the same words again. -/
theorem words_noted (h : noteFailure r = .ok r') : words r' = words r := by
  have hwords : words r = .ok (notedFailure? r') := by rw [words, h]; rfl
  unfold noteFailure at h
  split at h
  · rename_i f hnone hfailure
    obtain ⟨s, hs, rfl⟩ := ok_of_map h
    rw [hwords, words, noteFailure]
    have hkept : (r.note "exc_text" (.json (.str s))).failure = some f := hfailure
    rw [hkept]
    -- empty words count as none, so they are worked out and noted a second time
    cases hn : notedFailure? (r.note "exc_text" (.json (.str s))) with
    | some v => exact congrArg Except.ok hn
    | none =>
      dsimp only
      rw [hs]
      exact congrArg Except.ok ((notedFailure?_noteText ..).trans hn)
  · cases h
    rfl

end PlainFormat

/-- A record is another one but for standard attributes, and its failure is told in the same
words. -/
structure Record.Alike (r r' : Record) : Prop where
  eq : r' = { r with attributes := r'.attributes }
  kept : r'.attributes.filter (fun p => !Record.standardNames.contains p.1) =
    r.attributes.filter fun p => !Record.standardNames.contains p.1
  words : PlainFormat.words r' = PlainFormat.words r

namespace Record.Alike

theorem refl (r : Record) : r.Alike r := ⟨rfl, rfl, rfl⟩

theorem trans (h : r.Alike r') (h' : r'.Alike r'') : r.Alike r'' := by
  refine ⟨?_, h'.kept.trans h.kept, h'.words.trans h.words⟩
  rw [h'.eq, h.eq]

theorem levelName (h : r.Alike r') : r'.levelName = r.levelName := by rw [h.eq]

/-- Attributes that are shown have no standard names. -/
theorem context (h : r.Alike r') : r'.context = r.context := by
  have hshown (p : String × Value) :
      isShown p.1 = (isShown p.1 && !standardNames.contains p.1) := by
    unfold isShown
    cases standardNames.contains p.1 <;> simp
  have hfilter (s : Record) : s.context =
      (s.attributes.filter fun p => !standardNames.contains p.1).filter fun p => isShown p.1 := by
    rw [List.filter_filter, Record.context]
    exact List.filter_congr fun p _ => hshown p
  rw [hfilter r', h.kept, ← hfilter r]

/-- Notes about other things than the failure, which have standard names too. -/
theorem note {key : String} (hkey : key ∈ standardNames) (htext : key ≠ "exc_text")
    (r : Record) (v : Value) : r.Alike (r.note key v) :=
  ⟨rfl, Assoc.filter_put (q := fun k => !standardNames.contains k) (by simpa using hkey) _ _,
    PlainFormat.words_congr (PlainFormat.notedFailure?_note htext r v) rfl⟩

theorem noteFailure (h : PlainFormat.noteFailure r = .ok r') : r.Alike r' := by
  have hwords := PlainFormat.words_noted h
  unfold PlainFormat.noteFailure at h
  split at h
  · obtain ⟨s, hs, rfl⟩ := ok_of_map h
    exact ⟨rfl, Assoc.filter_put (q := fun k => !standardNames.contains k) (by decide) _ _, hwords⟩
  · cases h
    exact .refl r

/-- Records stay alike if the level of both is renamed. -/
theorem renamed (h : r.Alike r') (level : Json) :
    Record.Alike { r with levelName := level } { r' with levelName := level } := by
  have hwords (s : Record) : PlainFormat.words { s with levelName := level } =
      PlainFormat.words s := PlainFormat.words_congr rfl rfl
  refine ⟨?_, h.kept, by rw [hwords, hwords, h.words]⟩
  rw [h.eq]

end Record.Alike

namespace PlainFormat

/-- A line for readers, from the parts of a record. -/
theorem line_eq (r : Record) :
    (format r).1 = (do
      let message ← r.message
      let time ← timeText r
      let line ← head r time message
      let failure ← words r
      (join line failure).bind (join · (r.stack.map .json))) := by
  unfold format
  cases r.message with
  | error f => rfl
  | ok message =>
    -- what has been noted is read neither for the time nor for the beginning of the line
    have htime : timeText (r.note "message" (.text message)) = timeText r := rfl
    dsimp only
    rw [htime]
    cases timeText r with
    | error f => rfl
    | ok time =>
      let noted := (r.note "message" (.text message)).note "asctime" (.json (.str time))
      have hhead : head noted time message = head r time message := rfl
      have hstack : noted.stack = r.stack := rfl
      have hwords : words noted = words r :=
        (Record.Alike.note (by decide) (by decide) _ _).words.trans
          (Record.Alike.note (by decide) (by decide) _ _).words
      dsimp only [bind, Except.bind]
      rw [hhead, ← hstack, ← hwords]
      cases head r time message with
      | error f => rfl
      | ok line =>
        unfold words
        cases hnote : noteFailure noted with
        | error f => rfl
        | ok last =>
          have hkept : last.stack = noted.stack := by rw [(Record.Alike.noteFailure hnote).eq]
          dsimp only
          rw [hkept]
          rfl

theorem alike_format (r : Record) : r.Alike (format r).2 := by
  unfold format
  cases r.message with
  | error f => exact .refl r
  | ok message =>
    have hmessage : r.Alike (r.note "message" (.text message)) :=
      .note (by decide) (by decide) r _
    dsimp only
    split
    · exact hmessage
    · rename_i time _
      have htime : r.Alike
          ((r.note "message" (.text message)).note "asctime" (.json (.str time))) :=
        hmessage.trans (.note (by decide) (by decide) _ _)
      split
      · exact htime
      · split
        · exact htime
        · rename_i hnote
          exact htime.trans (.noteFailure hnote)

theorem format_congr (h : r.Alike r') : (format r').1 = (format r).1 := by
  rw [line_eq, line_eq, h.words, h.eq]
  rfl

end PlainFormat

namespace ConsoleFormat

variable (c : ConsoleFormat)

theorem contextText_congr (h : r.Alike r') : contextText r' = contextText r := by
  unfold contextText
  rw [h.context, h.eq]
  rfl

/-- The level has its own name again. -/
theorem alike_format (r : Record) : r.Alike (c.format r).2 := by
  unfold format
  cases c.shownLevel r.levelName with
  | error f => exact .refl r
  | ok level =>
    have halike := (PlainFormat.alike_format { r with levelName := level }).renamed r.levelName
    exact halike

/-- A line on the console is one for readers with the level as it is shown. -/
theorem line_eq (r : Record) :
    (c.format r).1 = (do
      let level ← c.shownLevel r.levelName
      let line ← (PlainFormat.format { r with levelName := level }).1
      return line ++ (← contextText r)) := by
  have halike := c.alike_format r
  unfold format at halike ⊢
  cases hshown : c.shownLevel r.levelName with
  | error f => rfl
  | ok level =>
    rw [hshown] at halike
    dsimp only at halike ⊢
    rw [contextText_congr halike]
    rfl

theorem format_congr (h : r.Alike r') : (c.format r').1 = (c.format r).1 := by
  rw [c.line_eq, c.line_eq, h.levelName, contextText_congr h]
  simp only [PlainFormat.format_congr (h.renamed _)]

end ConsoleFormat

namespace Layout

/-! ## One formatter after another -/

theorem alike_format (l : Layout) (r : Record) : r.Alike (l.format r).2 := by
  cases l with
  | json j => exact .refl r
  | console c => exact c.alike_format r
  | plain => exact PlainFormat.alike_format r

/-- Notes make no difference to a line. -/
theorem format_congr (l : Layout) (h : r.Alike r') : (l.format r').1 = (l.format r).1 := by
  cases l with
  | json j =>
    have hline : (j.format r').1 = (j.format r).1 := by
      unfold JsonFormat.format JsonFormat.members
      rw [h.context, h.eq]
      rfl
    exact congrArg (Except.map points) hline
  | console c => exact c.format_congr h
  | plain => exact PlainFormat.format_congr h

/-- The lines of a record that is formatted again and again, and the record after that. -/
def formatAll : List Layout → Record → List (Except Fault (List CodePoint)) × Record
  | [], r => ([], r)
  | l :: ls, r =>
    let (line, r) := l.format r
    let (lines, r) := formatAll ls r
    (line :: lines, r)

/-- **Any number of formatters.** Each line is the one of the record as it was at first. -/
theorem formatAll_spec (ls : List Layout) (h : r.Alike r') :
    (formatAll ls r').1 = ls.map (fun l => (l.format r).1) ∧ r.Alike (formatAll ls r').2 := by
  induction ls generalizing r' with
  | nil => exact ⟨rfl, h⟩
  | cons l ls ih =>
    obtain ⟨hlines, hlast⟩ := ih (h.trans (l.alike_format r'))
    refine ⟨?_, hlast⟩
    rw [List.map_cons, ← hlines, ← l.format_congr h]
    rfl

end Layout

namespace Logging

variable {g g' : Logging} {o : Options} {level : Int} {h h' : Handler}

/-! ## Handlers -/

/-- A handler writes its line of a record, if it hears the record and there is a line. -/
def delivered (level : Int) (r : Record) (g : Logging) (h : Handler) : Logging :=
  match (h.layout.format r).1 with
  | .ok line => if h.level ≤ level then g.write h line else g
  | .error _ => g

/-- A handler that gets a record after others does what it does with a fresh one. -/
theorem handle_spec (halike : r.Alike r') :
    (handle level (g, r') h).1 = delivered level r g h ∧
      r.Alike (handle level (g, r') h).2 := by
  have hline := h.layout.format_congr halike
  have hafter := halike.trans (h.layout.alike_format r')
  rw [delivered, ← hline, handle]
  dsimp only
  cases hformat : h.layout.format r' with
  | mk line after =>
    rw [hformat] at hafter
    by_cases hlevel : h.level ≤ level
    · simp only [if_pos hlevel]
      cases line <;> exact ⟨rfl, hafter⟩
    · simp only [if_neg hlevel]
      cases line <;> exact ⟨rfl, halike⟩

theorem foldl_handle (hs : List Handler) (halike : r.Alike r') :
    (hs.foldl (handle level) (g, r')).1 = hs.foldl (delivered level r) g := by
  induction hs generalizing g r' with
  | nil => rfl
  | cons h hs ih =>
    obtain ⟨hfirst, hafter⟩ : (handle level (g, r') h).1 = delivered level r g h ∧
        r.Alike (handle level (g, r') h).2 := handle_spec halike
    rw [List.foldl_cons, List.foldl_cons, ← hfirst]
    exact ih hafter

/-- A record on its way to handlers gives each of them its own line. -/
theorem emit_eq (hne : g.handlers ≠ []) (watched : Bool) :
    emit g level watched r = g.handlers.foldl (delivered level r) g := by
  rw [emit, if_neg (by simpa using hne), foldl_handle _ (.refl r)]

/-- A handler does nothing, or it writes a line that only the record decides. -/
theorem delivered_cases (level : Int) (r : Record) (h : Handler) :
    (∀ g, delivered level r g h = g) ∨ ∃ line, ∀ g, delivered level r g h = g.write h line := by
  unfold delivered
  cases (h.layout.format r).1 with
  | error f => exact .inl fun _ => rfl
  | ok line =>
    by_cases hlevel : h.level ≤ level
    · exact .inr ⟨line, fun _ => if_pos hlevel⟩
    · exact .inl fun _ => if_neg hlevel

theorem delivered_console (level : Int) (r : Record) (hfile : h.file = none) :
    ∃ f : String → String, ∀ g, delivered level r g h = { g with console := f g.console } := by
  obtain hnothing | ⟨line, hline⟩ := delivered_cases level r h
  · exact ⟨id, hnothing⟩
  · simp only [hline, write, hfile]
    cases string? line with
    | none => exact ⟨id, fun _ => rfl⟩
    | some line => exact ⟨fun shown => shown ++ line ++ "\n", fun _ => rfl⟩

theorem delivered_file (level : Int) (r : Record) (hfile : h.file.isSome = true) :
    ∃ f : Files → Files, ∀ g, delivered level r g h = { g with files := f g.files } := by
  obtain ⟨rotation, hrotation⟩ := Option.isSome_iff_exists.mp hfile
  obtain hnothing | ⟨line, hline⟩ := delivered_cases level r h
  · exact ⟨id, hnothing⟩
  · simp only [hline, write, hrotation]
    cases string? line with
    | none => exact ⟨id, fun _ => rfl⟩
    | some line => exact ⟨fun files => rotation.write files line, fun _ => rfl⟩

theorem handlers_delivered (level : Int) (r : Record) (g : Logging) (h : Handler) :
    (delivered level r g h).handlers = g.handlers := by
  cases hfile : h.file with
  | none =>
    obtain ⟨f, hf⟩ := delivered_console level r hfile
    rw [hf]
  | some rotation =>
    obtain ⟨f, hf⟩ := delivered_file level r (Option.isSome_iff_exists.mpr ⟨rotation, hfile⟩)
    rw [hf]

theorem handlers_emit (g : Logging) (level : Int) (watched : Bool) (r : Record) :
    (emit g level watched r).handlers = g.handlers := by
  have hfold (hs : List Handler) (g : Logging) :
      (hs.foldl (delivered level r) g).handlers = g.handlers := by
    induction hs generalizing g with
    | nil => rfl
    | cons h hs ih => rw [List.foldl_cons, ih, handlers_delivered]
  by_cases hne : g.handlers = []
  · unfold emit
    rw [if_pos (by simpa using hne)]
    split
    · split <;> rfl
    · rfl
  · rw [emit_eq hne, hfold]

/-- The handlers of a setup: perhaps the console, then perhaps a file. -/
theorem handlers_of_setUp (hset : setUp g o = (.ok (), g')) :
    ∃ console file : Option Handler, g'.handlers = console.toList ++ file.toList ∧
      (∀ h ∈ console, h.file = none) ∧ ∀ h ∈ file, h.file.isSome = true := by
  unfold setUp at hset
  split at hset
  · cases hset
  · rename_i level _
    dsimp only at hset
    let console : Option Handler := if o.console then some ⟨level, o.layout true, none⟩ else none
    have hlist : console.toList = if o.console then [⟨level, o.layout true, none⟩] else [] := by
      cases hshow : o.console <;> simp [console, hshow]
    have hconsole : ∀ h ∈ console, h.file = none := by
      intro h hh
      cases hshow : o.console <;> simp [console, hshow] at hh
      exact hh ▸ rfl
    split at hset
    · obtain rfl := (Prod.mk.inj hset).2
      exact ⟨console, none, by simp [hlist], hconsole, nofun⟩
    · rename_i path _
      split at hset
      · cases hset
      · obtain rfl := (Prod.mk.inj hset).2
        refine ⟨console, some (fileHandler o level path), by simp [hlist], hconsole, ?_⟩
        intro h hh
        obtain rfl := Option.some.inj hh
        rfl

/-- **The console and a file share a record in either order.** -/
theorem emit_reverse (hset : setUp g o = (.ok (), g')) (watched : Bool) :
    emit { g' with handlers := g'.handlers.reverse } level watched r =
      { emit g' level watched r with handlers := g'.handlers.reverse } := by
  obtain ⟨console, file, hhandlers, hconsole, hfile⟩ := handlers_of_setUp hset
  have hsame (hreverse : g'.handlers.reverse = g'.handlers) :
      emit { g' with handlers := g'.handlers.reverse } level watched r =
        { emit g' level watched r with handlers := g'.handlers.reverse } := by
    rw [hreverse]
    exact congrArg (fun hs => { emit g' level watched r with handlers := hs })
      (handlers_emit g' level watched r)
  cases console with
  | none => exact hsame (by cases file <;> simp [hhandlers])
  | some h =>
    cases file with
    | none => exact hsame (by simp [hhandlers])
    | some h' =>
      obtain ⟨shown, hshown⟩ := delivered_console level r (hconsole h rfl)
      obtain ⟨written, hwritten⟩ := delivered_file level r (hfile h' rfl)
      have hlist : g'.handlers = [h, h'] := hhandlers
      rw [emit_eq (by simp [hlist]), emit_eq (by simp [hlist])]
      simp only [hlist, List.reverse_cons, List.reverse_nil, List.nil_append, List.cons_append,
        List.foldl_cons, List.foldl_nil, hshown, hwritten]

end Logging

/-- **Lines do not depend on those before.** Whatever formatters a record goes through, each line
is the one that it would be if it were the only one, be it a line or a fault, and the record has its
level and its extra attributes at the end. Of the console and the file of a setup, either may come
first. -/
theorem formats_independent :
    (∀ (ls : List Layout) (r : Record),
      (Layout.formatAll ls r).1 = ls.map (fun l => (l.format r).1) ∧
        (Layout.formatAll ls r).2.levelName = r.levelName ∧
        (Layout.formatAll ls r).2.attributes.filter
            (fun p => !Record.standardNames.contains p.1) =
          r.attributes.filter fun p => !Record.standardNames.contains p.1) ∧
    ∀ (g g' : Logging) (o : Logging.Options), Logging.setUp g o = (.ok (), g') →
      ∀ level watched r, Logging.emit { g' with handlers := g'.handlers.reverse } level watched r =
        { Logging.emit g' level watched r with handlers := g'.handlers.reverse } := by
  refine ⟨fun ls r => ?_, fun g g' o hset level watched r => Logging.emit_reverse hset watched⟩
  obtain ⟨hlines, hlast⟩ := Layout.formatAll_spec ls (.refl r)
  exact ⟨hlines, hlast.levelName, hlast.kept⟩

/-- A failed order, with one argument too few for what is to be said about it. -/
def Record.misfit : Record where
  name := .str "shop.orders"
  levelName := .str "ERROR"
  thread := .str "MainThread"
  path := .str "/app/orders.py"
  line := .int 7
  function := .null
  created := .int 1700000000
  template := .str "%s of %s"
  arguments := .ofList [.int 3]
  failure := some (.fault .emptyTableName)
  attributes := [("order", .json (.int 12)), ("_user", .json (.str "ann"))]

/-- A console with colours and a file, both heard from the usual level on. -/
def Logging.shop : Logging where
  level := 20
  noisyLevel := 30
  handlers := [⟨20, .console ⟨true⟩, none⟩, ⟨20, .plain, some ⟨"shop.log", 104857600, 5⟩⟩]
  files := [("shop.log", "")]

/-- Formatters with and without colours get a record with one argument too few and one that fits,
and the latter goes to a console and a file. -/
theorem formats_independent_shop :
    let ls : List Layout :=
      [.console ⟨true⟩, .json ⟨true, true, "shop", "host-1"⟩, .console ⟨false⟩]
    let fit : Record := { Record.misfit with arguments := .ofList [.int 3, .int 4] }
    (Layout.formatAll ls .misfit).1 = ls.map (fun l => (l.format .misfit).1) ∧
      (Layout.formatAll ls fit).1 = ls.map (fun l => (l.format fit).1) ∧
      (Layout.formatAll ls fit).2.levelName = .str "ERROR" ∧
      Logging.setUp { } { file := some "shop.log", terminal := true } = (.ok (), .shop) ∧
      Logging.emit { Logging.shop with handlers := Logging.shop.handlers.reverse } 40 false fit =
        { Logging.emit .shop 40 false fit with handlers := Logging.shop.handlers.reverse } := by
  have hset :
      Logging.setUp { } { file := some "shop.log", terminal := true } = (.ok (), .shop) := by rfl
  exact ⟨(formats_independent.1 _ _).1, (formats_independent.1 _ _).1,
    (formats_independent.1 _ _).2.1, hset, formats_independent.2 _ _ _ hset _ _ _⟩

end TableDiscovery
