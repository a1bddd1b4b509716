import TableDiscovery.Proofs.Json.Room
import TableDiscovery.Proofs.Quiet
import TableDiscovery.Proofs.Tracing.Marks

/-!
# Work in spans

Work consists of blocks, which stand one after another and inside each other, of attributes that
are added between them, and of faults that are raised in some places and handled in others. If its
attributes can be set, it ends in spans as it does without them. Every block that is entered leaves
one span: the spans of the blocks inside it come first, and what the span holds is told from its own
block alone.

* `Tracing.Work`, `Work.run`, `Work.plain`: work, its run in spans, and how it ends without them;
* `Tracing.Visit`, `Work.visits`, `Work.added`: the blocks entered, and the attributes that fall
  outside of them;
* `Tracing.Written`, `Tracing.Named`, `Work.Settable`: attributes that can be set;
* `Tracing.enter_spec`, `tracing_closeSpan`, `addAttributes_spec`: what each step does;
* `Tracing.tracing_traced`, `Block.marked_span`: the span of a block;
* **`Work.outcome_run`**, **`Work.tracing_run`**: how a run ends, and what it adds to tracing;
* **`Work.run_follows`**: spans follow the blocks.
-/

namespace TableDiscovery.Tracing

open Act

variable {α β : Type}

/-- Work: values and what is done with them, blocks, attributes for the block that is being worked
on, faults, and handlers, which may raise a fault again. -/
inductive Work : Type → Type 1
  | pure {α : Type} (a : α) : Work α
  | bind {α β : Type} (first : Work α) (next : α → Work β) : Work β
  | block {α : Type} (name : String) (kind : Span.Kind) (given : List (String × Json))
      (body : Work α) : Work α
  | add (attributes : List (String × Json)) : Work Unit
  | throw {α : Type} (f : Fault) : Work α
  | handle {α : Type} (body : Work α) (handler : Fault → Work α) : Work α

/-- A block that was entered: the block around it, what it was opened with, the attributes that were
added to it, and the fault that left its body. -/
structure Block where
  name : String
  kind : Span.Kind
  around : Option String
  given : List (String × Json)
  added : List (String × Json)
  left : Option Fault

/-- A block that was entered, with those that were entered inside it. -/
inductive Visit
  | mk (block : Block) (inner : List Visit)

mutual

/-- The blocks of a visit as they are left: those inside, then the block itself. -/
def Visit.blocks : Visit → List Block
  | .mk block inner => blocksOf inner ++ [block]

/-- The blocks of visits that follow each other. -/
def blocksOf : List Visit → List Block
  | [] => []
  | v :: rest => v.blocks ++ blocksOf rest

end

/-- The failure that left the body of a block. An interrupt is none. -/
def Block.failure? (b : Block) : Option Fault := b.left.filter (·.isFailure)

/-- A recorded span that was just opened. -/
def opened (name : String) (kind : Span.Kind) (around : Option String) : Span :=
  ⟨name, kind, around, true, [], [], none⟩

/-- Attributes with their values as texts. -/
def shownTexts (attributes : List (String × Json)) : List (String × String) :=
  attributes.map fun p => (p.1, p.2.shown)

/-- The span of a block holds the attributes that the block was opened with, those that were added
to it, and the marks of the fault that left it. -/
def Block.span (b : Block) : Span :=
  let s := (opened b.name b.kind b.around).setTexts (shownTexts (b.given ++ b.added))
  b.left.elim s s.mark

/-- The values of attributes can be written if there is room for some levels below them. -/
def Written (room : Nat) (attributes : List (String × Json)) : Prop :=
  ∀ p ∈ attributes, Json.Fits .literal (room + 1) p.2

/-- No attribute is named like what else a block is opened with. -/
def Named (given : List (String × Json)) : Prop :=
  ∀ p ∈ given, p.1 ≠ "operation_name" ∧ p.1 ≠ "kind"

/-- The name of the innermost open span, if it is recorded. -/
def innermost (t : Tracing) : Option String := (t.current.head?.filter (·.recording)).map (·.name)

namespace Work

/-- Runs work, its blocks in spans. -/
def run : {α : Type} → Work α → Act Site α
  | _, .pure a => Pure.pure a
  | _, .bind first next => first.run >>= fun a => (next a).run
  | _, .block name kind given body => traced name kind given body.run
  | _, .add attributes => addAttributes attributes
  | _, .throw f => MonadExcept.throw f
  | _, .handle body handler =>
    Act.attempt body.run >>= fun
      | .ok a => Pure.pure a
      | .error f => (handler f).run

/-- How work ends without tracing. -/
def plain : {α : Type} → Work α → Except Fault α
  | _, .pure a => .ok a
  | _, .bind first next =>
    match first.plain with
    | .ok a => (next a).plain
    | .error f => .error f
  | _, .block _ _ _ body => body.plain
  | _, .add _ => .ok ()
  | _, .throw f => .error f
  | _, .handle body handler =>
    match body.plain with
    | .ok a => .ok a
    | .error f => (handler f).plain

/-- The attributes that are added outside of the blocks of the work. -/
def added : {α : Type} → Work α → List (String × Json)
  | _, .pure _ | _, .throw _ | _, .block .. => []
  | _, .add attributes => attributes
  | _, .bind first next =>
    match first.plain with
    | .ok a => first.added ++ (next a).added
    | .error _ => first.added
  | _, .handle body handler =>
    match body.plain with
    | .ok _ => body.added
    | .error f => body.added ++ (handler f).added

/-- The blocks that the work enters inside a block. -/
def visits (around : Option String) : {α : Type} → Work α → List Visit
  | _, .pure _ | _, .throw _ | _, .add _ => []
  | _, .block name kind given body =>
    [.mk ⟨name, kind, around, given, body.added, fault? body.plain⟩ (body.visits (some name))]
  | _, .bind first next =>
    match first.plain with
    | .ok a => first.visits around ++ (next a).visits around
    | .error _ => first.visits around
  | _, .handle body handler =>
    match body.plain with
    | .ok _ => body.visits around
    | .error f => body.visits around ++ (handler f).visits around

/-- All attributes can be set that the work comes to, where there is room for some levels. -/
def Settable (room : Nat) : {α : Type} → Work α → Prop
  | _, .pure _ | _, .throw _ => True
  | _, .add attributes => Written room attributes
  | _, .block _ _ given body => Named given ∧ Written room given ∧ body.Settable room
  | _, .bind first next =>
    first.Settable room ∧ ∀ a, first.plain = .ok a → (next a).Settable room
  | _, .handle body handler =>
    body.Settable room ∧ ∀ f, body.plain = .error f → (handler f).Settable room

end Work

/-! ## Attributes -/

section Attributes

variable {room : Nat} {attributes given : List (String × Json)}

theorem texts_of_written (h : Written room attributes) :
    texts room attributes = (shownTexts attributes, none) := by
  induction attributes with
  | nil => rfl
  | cons p attributes ih =>
    obtain ⟨hp, hrest⟩ := List.forall_mem_cons.mp h
    rw [texts, Json.display?_eq_ok hp]
    dsimp only
    rw [ih hrest]
    rfl

theorem checkNames_of_named (h : Named given) : checkNames given = .ok () := by
  have hnot {name : String} (hname : ∀ p ∈ given, p.1 ≠ name) :
      ¬ (given.map (·.1)).contains name = true := by
    rw [List.contains_iff_mem, List.mem_map]
    rintro ⟨p, hp, rfl⟩
    exact hname p hp rfl
  unfold checkNames
  dsimp only
  rw [if_neg (hnot fun p hp => (h p hp).2), if_neg (hnot fun p hp => (h p hp).1)]

theorem untold?_eq_none (hnamed : Named given) (hwritten : Written room given) :
    untold? room given = none := by
  rw [untold?, checkNames_of_named hnamed]
  dsimp only
  rw [texts_of_written hwritten]

end Attributes

/-! ## Steps -/

section Steps

variable {s : Site} {t : Tracing} {name : String} {kind : Span.Kind}
  {attributes : List (String × Json)} {E : Fault → Prop}

theorem meets_record {e : Event} : Meets (·.tracing = t) E (Site.record e) :=
  meets_modify fun _ h => h

theorem meets_getTracer : Meets (·.tracing = t) E getTracer :=
  meets_get_bind fun _ _ => meets_ite
    (fun _ => meets_get_bind fun _ _ => meets_ite (fun _ => meets_record) fun _ => meets_pure _)
    fun _ => meets_pure _

/-- A span is opened on top of the open ones. -/
theorem tracing_openSpan (hrecords : s.tracing.records = true) :
    ((openSpan name kind).after s).tracing =
      { s.tracing with current := opened name kind s.tracing.innermost :: s.tracing.current } := by
  have hkept := (meets_getTracer (E := fun _ => False) s rfl).1
  obtain ⟨_, hout⟩ := (meets_getTracer (t := s.tracing)).returns (s := s) rfl
  rw [openSpan, after_bind, hout]
  dsimp only
  rw [change, after_modify, hkept, hrecords]
  rfl

/-- A span is entered with the texts of its attributes. -/
theorem enter_spec (hrecords : s.tracing.records = true) (hnamed : Named attributes)
    (hwritten : Written s.script.room attributes) :
    (enter name kind attributes).outcome s = .ok () ∧
      ((enter name kind attributes).after s).tracing =
        { s.tracing with
          current := (opened name kind s.tracing.innermost).setTexts (shownTexts attributes) ::
            s.tracing.current } := by
  have hopen : ((openSpan name kind).after s).tracing = _ := tracing_openSpan hrecords
  obtain ⟨_, hopened⟩ : ∃ a, (openSpan name kind).outcome s = .ok a :=
    aside_openSpan.returns (.refl s)
  have hroom : ((openSpan name kind).after s).script = s.script :=
    (aside_openSpan (E := fun _ => False) s (.refl s)).1.script
  refine ⟨?_, ?_⟩
  · rw [(enter_views name kind attributes s).1, untold?_eq_none hnamed hwritten]
    rfl
  · rw [enter, checkNames_of_named hnamed]
    generalize openSpan name kind = o at hopen hopened hroom
    rw [after_bind, outcome_ofExcept, after_ofExcept]
    dsimp only
    rw [after_bind, hopened]
    dsimp only
    rw [after_bind, outcome_get, after_get]
    dsimp only
    rw [hroom, texts_of_written hwritten]
    dsimp only
    rw [after_bind, changeCurrent, change, outcome_modify, after_modify, hopen]
    rfl

/-- The innermost open span is finished with what is left on it. -/
theorem tracing_closeSpan {leave : Span → Span} {span : Span} {rest : List Span}
    (hcurrent : s.tracing.current = span :: rest) (hrecording : (leave span).recording = true) :
    ((closeSpan leave).after s).tracing =
      { s.tracing with
        current := rest
        finished := s.tracing.finished ++ [leave span] } := by
  have hexport (t : Tracing) (exporters : List Exporter) (e : Exporter → Event) :
      Meets (·.tracing = t) (fun _ => True) (exporters.forM fun x => Site.record (e x)) :=
    meets_forM fun _ => meets_record
  simp only [closeSpan, after_bind, outcome_get, after_get, hcurrent, hrecording, if_true]
  exact (hexport _ _ _ _ rfl).1

end Steps

/-! ## Runs -/

/-- What work adds to tracing: attributes of the innermost open span, and the spans of blocks. -/
def grow (t : Tracing) (added : List (String × Json)) (blocks : List Block) : Tracing :=
  { t with
    current := t.current.modifyHead (·.setTexts (shownTexts added))
    finished := t.finished ++ blocks.map Block.span }

section Grow

variable {t : Tracing} {added added' : List (String × Json)} {blocks blocks' : List Block}

theorem setTexts_append {s : Span} : s.setTexts (shownTexts (added ++ added')) =
    (s.setTexts (shownTexts added)).setTexts (shownTexts added') := by
  rw [shownTexts, List.map_append]
  exact List.foldl_append

theorem modifyHead_setTexts_nil (spans : List Span) :
    spans.modifyHead (·.setTexts (shownTexts [])) = spans := by
  cases spans <;> rfl

theorem grow_nil : t.grow [] [] = t := by
  simp only [grow, modifyHead_setTexts_nil, List.map_nil, List.append_nil]

theorem grow_grow : (t.grow added blocks).grow added' blocks' =
    t.grow (added ++ added') (blocks ++ blocks') := by
  simp only [grow, List.modifyHead_modifyHead, List.map_append, List.append_assoc, setTexts_append]
  rfl

theorem innermost_grow : (t.grow added blocks).innermost = t.innermost := by
  obtain ⟨provider, isSetUp, current, finished, announces⟩ := t
  cases current with
  | nil => rfl
  | cons span rest => simp [innermost, grow, Option.filter]

theorem blocksOf_append (vs ws : List Visit) :
    blocksOf (vs ++ ws) = blocksOf vs ++ blocksOf ws := by
  induction vs with
  | nil => rfl
  | cons v vs ih => rw [List.cons_append, blocksOf, blocksOf, ih, List.append_assoc]

/-- Attributes are added to the innermost open span. One that is not recorded takes no note of
them. -/
theorem addAttributes_spec {s : Site} (h : Written s.script.room added) :
    (addAttributes added).outcome s = .ok () ∧
      ((addAttributes added).after s).tracing = s.tracing.grow added [] := by
  obtain ⟨script, counts, opened, closed, threshold, tracing, trace⟩ := s
  obtain ⟨provider, isSetUp, current, finished, announces⟩ := tracing
  rw [addAttributes, outcome_bind, after_bind, outcome_get, after_get]
  dsimp only
  rw [texts_of_written h]
  cases current with
  | nil => exact ⟨rfl, by simp [grow]⟩
  | cons span rest =>
    cases hrecording : span.recording with
    | true =>
      simp only [List.head?_cons, Option.any_some, hrecording, if_true]
      exact ⟨rfl, by simp [changeCurrent, change, after_modify, grow, failWith]⟩
    | false =>
      simp only [List.head?_cons, Option.any_some, hrecording, Bool.false_eq_true, if_false]
      exact ⟨rfl, by simp [grow, Span.setTexts_of_not_recording hrecording]⟩

end Grow

section Traced

variable {s : Site} {name : String} {kind : Span.Kind} {given added : List (String × Json)}
  {blocks : List Block} {body : Act Site α}

theorem innermost_enter (hrecords : s.tracing.records = true) (hnamed : Named given)
    (hwritten : Written s.script.room given) :
    ((enter name kind given).after s).tracing.innermost = some name := by
  simp [(enter_spec hrecords hnamed hwritten).2, innermost, opened, Option.filter]

/-- An action is not begun in a span that cannot have its attributes. -/
theorem outcome_traced_of_untold {f : Fault} (h : untold? s.script.room given = some f) :
    (traced name kind given body).outcome s = .error f := by
  obtain ⟨hout, -⟩ := enter_views name kind given s
  rw [h] at hout
  have hfirst : outcome (liftM (enter name kind given) : Act Site Unit) s = .error f := hout
  rw [traced, outcome_bind, hfirst]

theorem leaving_eq (r : Except Fault α) (span : Span) :
    leaving r span = (fault? r).elim span span.mark := by
  cases r <;> rfl

/-- An action in a span leaves that span after those of the blocks inside it. -/
theorem tracing_traced (hrecords : s.tracing.records = true) (hnamed : Named given)
    (hwritten : Written s.script.room given)
    (hbody : (body.after ((enter name kind given).after s)).tracing =
      ((enter name kind given).after s).tracing.grow added blocks) :
    ((traced name kind given body).after s).tracing =
      s.tracing.grow [] (blocks ++ [⟨name, kind, s.tracing.innermost, given, added,
        fault? (body.outcome ((enter name kind given).after s))⟩]) := by
  obtain ⟨hout, htracing⟩ : (enter name kind given).outcome s = .ok () ∧ _ :=
    enter_spec hrecords hnamed hwritten
  have hafter : (traced name kind given body).after s = _ :=
    (traced_views hout outcome_closeSpan).2
  rw [htracing] at hbody
  have hmarked (r : Except Fault α) {span : Span} (h : span.recording = true) :
      (leaving r span).recording = true := by
    cases r with
    | ok a => exact h
    | error f => exact Span.recording_mark.trans h
  have hclose : ((closeSpan (leaving (body.outcome ((enter name kind given).after s)))).after
      (body.after ((enter name kind given).after s))).tracing = _ :=
    tracing_closeSpan (congrArg Tracing.current hbody) (hmarked _ (by simp [opened]))
  rw [hafter]
  refine hclose.trans ?_
  simp only [hbody, grow, modifyHead_setTexts_nil, List.map_append, List.map_cons, List.map_nil,
    List.append_assoc, Block.span, setTexts_append, leaving_eq]

end Traced

/-- A block whose attributes have other names leaves a span that is marked by the failure that left
its body, if there is one. -/
theorem Block.marked_span (b : Block) (hnames : ∀ p ∈ b.given ++ b.added, p.1 ∉ Span.markNames) :
    b.span.Marked b.failure? := by
  have hrecording : ((opened b.name b.kind b.around).setTexts
      (shownTexts (b.given ++ b.added))).recording = true := by
    simp [opened]
  have hunmarked : ∀ p ∈ ((opened b.name b.kind b.around).setTexts
      (shownTexts (b.given ++ b.added))).attributes, p.1 ∉ Span.markNames := by
    intro p hp
    obtain hp | hp := Span.mem_attributes_setTexts hp
    · cases hp
    · rw [shownTexts, List.map_map] at hp
      obtain ⟨q, hq, hname⟩ := List.mem_map.mp hp
      exact hname ▸ hnames q hq
  unfold Block.span Block.failure?
  cases b.left with
  | none => exact Span.marked_of_notMem hunmarked
  | some f =>
    cases hf : f.isFailure with
    | true =>
      rw [Option.filter_some_pos hf]
      exact Span.marked_mark hrecording hf
    | false =>
      rw [Option.filter_some_neg (by simp [hf])]
      dsimp only [Option.elim_some]
      rw [Span.mark_of_not_isFailure hf]
      exact Span.marked_of_notMem hunmarked

namespace Work

/-- Of the site, a run touches nothing but tracing. -/
theorem aside_run (w : Work α) (s₀ : Site) : Meets s₀.Aside (fun _ => True) w.run := by
  induction w with
  | pure a => exact meets_pure a
  | bind first next hfirst hnext => exact meets_bind hfirst hnext
  | block name kind given body hbody =>
    exact meets_traced (aside_enter.mono fun _ _ => trivial) (fun _ => aside_closeSpan) hbody
  | add attributes => exact aside_addAttributes.mono fun _ _ => trivial
  | throw f => exact meets_throw trivial
  | handle body handler hbody hhandler =>
    rw [run]
    exact meets_attempt_bind hbody (fun a => meets_pure a) fun f _ => hhandler f

theorem script_run (w : Work α) (s : Site) : (w.run.after s).script = s.script :=
  (aside_run w s s (.refl s)).1.script

theorem script_enter (name : String) (kind : Span.Kind) (given : List (String × Json)) (s : Site) :
    ((enter name kind given).after s).script = s.script :=
  (enter_views name kind given s).2.script

/-- **In spans, work ends as it does without them**, if its attributes can be set. -/
theorem outcome_run (w : Work α) (s : Site) (h : w.Settable s.script.room) :
    w.run.outcome s = w.plain := by
  induction w generalizing s with
  | pure a => rfl
  | bind first next hfirst hnext =>
    obtain ⟨h₁, h₂⟩ := h
    rw [run, plain, outcome_bind, hfirst s h₁]
    cases hplain : first.plain with
    | ok a => exact hnext a _ ((script_run first s).symm ▸ h₂ a hplain)
    | error f => rfl
  | block name kind given body hbody =>
    obtain ⟨hnamed, hwritten, h⟩ := h
    have hopen : (enter name kind given).outcome s = .ok () := by
      rw [(enter_views name kind given s).1, untold?_eq_none hnamed hwritten]
      rfl
    exact (traced_views hopen outcome_closeSpan).1.trans
      (hbody _ ((script_enter name kind given s).symm ▸ h))
  | add attributes => exact (addAttributes_spec h).1
  | throw f => rfl
  | handle body handler hbody hhandler =>
    obtain ⟨h₁, h₂⟩ := h
    rw [run, plain, outcome_bind, outcome_attempt, after_attempt, hbody s h₁]
    cases hplain : body.plain with
    | ok a => rfl
    | error f => exact hhandler f _ ((script_run body s).symm ▸ h₂ f hplain)

/-- What work adds after an earlier part, seen from the site that the earlier part began on. -/
theorem tracing_next {w : Work α} {s t : Site} {before : List (String × Json)}
    {earlier : List Visit} (hrecords : s.tracing.records = true)
    (ht : t.tracing = s.tracing.grow before (blocksOf earlier))
    (hw : t.tracing.records = true → (w.run.after t).tracing =
      t.tracing.grow w.added (blocksOf (w.visits t.tracing.innermost))) :
    (w.run.after t).tracing =
      s.tracing.grow (before ++ w.added) (blocksOf (earlier ++ w.visits s.tracing.innermost)) := by
  rw [hw (by rw [ht]; exact hrecords), ht, innermost_grow, grow_grow, blocksOf_append]

/-- **The blocks that a run enters leave their spans.** -/
theorem tracing_run (w : Work α) (s : Site) (hrecords : s.tracing.records = true)
    (h : w.Settable s.script.room) : (w.run.after s).tracing =
      s.tracing.grow w.added (blocksOf (w.visits s.tracing.innermost)) := by
  induction w generalizing s with
  | pure a => exact grow_nil.symm
  | bind first next hfirst hnext =>
    obtain ⟨h₁, h₂⟩ := h
    rw [run, after_bind, outcome_run first s h₁, added, visits]
    cases hplain : first.plain with
    | ok a =>
      exact tracing_next hrecords (hfirst s hrecords h₁) fun hrecords =>
        hnext a _ hrecords ((script_run first s).symm ▸ h₂ a hplain)
    | error f => exact hfirst s hrecords h₁
  | block name kind given body hbody =>
    obtain ⟨hnamed, hwritten, h⟩ := h
    have h : body.Settable ((enter name kind given).after s).script.room :=
      (script_enter name kind given s).symm ▸ h
    -- The body runs where its own span is the innermost one: what it adds falls to that span.
    have hinside := hbody ((enter name kind given).after s)
      (by rw [(enter_spec hrecords hnamed hwritten).2]; exact hrecords) h
    rw [innermost_enter hrecords hnamed hwritten] at hinside
    rw [run, tracing_traced hrecords hnamed hwritten hinside, outcome_run body _ h, added, visits,
      blocksOf, blocksOf, List.append_nil, Visit.blocks]
  | add attributes => exact (addAttributes_spec h).2
  | throw f => exact grow_nil.symm
  | handle body handler hbody hhandler =>
    obtain ⟨h₁, h₂⟩ := h
    rw [run, after_bind, outcome_attempt, after_attempt, outcome_run body s h₁, added, visits]
    cases hplain : body.plain with
    | ok a => exact hbody s hrecords h₁
    | error f =>
      exact tracing_next hrecords (hbody s hrecords h₁) fun hrecords =>
        hhandler f _ hrecords ((script_run body s).symm ▸ h₂ f hplain)

/-- The blocks that work enters on a site, as they are left. -/
def blocks (w : Work α) (s : Site) : List Block := blocksOf (w.visits s.tracing.innermost)

/-- The spans of a run on a site follow the blocks of the work. -/
structure Follows (w : Work α) (s : Site) : Prop where
  /-- The run ends as the work does without tracing. -/
  outcome : w.run.outcome s = w.plain
  /-- Nothing but tracing is touched. -/
  aside : s.Aside (w.run.after s)
  /-- Every block that was entered has one span, after those of the blocks inside it. -/
  finished : (w.run.after s).tracing.finished =
    s.tracing.finished ++ (w.blocks s).map Block.span
  /-- Of the spans that were open before, attributes were added to the innermost one alone. -/
  current : (w.run.after s).tracing.current =
    s.tracing.current.modifyHead (·.setTexts (shownTexts w.added))
  /-- A span is marked by the failure that left the body of its block, and by nothing else. -/
  marked : ∀ b ∈ w.blocks s, (∀ p ∈ b.given ++ b.added, p.1 ∉ Span.markNames) →
    b.span.Marked b.failure?

/-- Tables are listed in a round: the connection is lost, which is noted, and then the round is
interrupted. -/
def round : Work Unit :=
  .block "round" .inner [("number", .str "1")] <|
    .bind
      (.handle
        (.block "list_tables" .client [("dialect", .str "postgresql")] <|
          .bind (.add [("host", .str "db1")]) fun _ =>
            .throw (.raised .connectionReset (some "lost")))
        fun f => if f.isFailure then .pure () else .throw f)
      fun _ => .bind (.add [("retries", .str "1")]) fun _ => .throw (.raised .interrupt none)

/-- A site whose spans are recorded, with one of them open. -/
def recordingSite : Site :=
  { tracing := { provider := some ⟨true, [.console]⟩, current := [opened "serve" .server none] } }

theorem written_text (room : Nat) (name text : String) : Written room [(name, .str text)] :=
  List.forall_mem_singleton.mpr (.str fun _ => Nat.succ_ne_zero room)

theorem named_singleton {name : String} {v : Json} (h : name ≠ "operation_name" ∧ name ≠ "kind") :
    Named [(name, v)] := List.forall_mem_singleton.mpr h

theorem settable_round : round.Settable recordingSite.script.room := by
  refine ⟨named_singleton (by decide), written_text _ _ _, ⟨⟨named_singleton (by decide),
    written_text _ _ _, written_text _ _ _, fun _ _ => trivial⟩, fun f _ => ?_⟩,
    fun _ _ => ⟨written_text _ _ _, fun _ _ => trivial⟩⟩
  dsimp only
  split <;> trivial

/-- A block with an attribute that is named like its name, and one with a number of 4301 digits. -/
def misnamed : Work Unit := .block "a" .inner [("operation_name", .str "x")] (.pure ())

def lengthy : Work Unit :=
  .block "a" .inner [("value", .int (Nat.pow 10 Text.maxDigits))] (.pure ())

end Work

end TableDiscovery.Tracing
