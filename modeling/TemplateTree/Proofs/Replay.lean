import TemplateTree.Session
import TemplateTree.Proofs.ContextLoading

/-!
# What a session amounts to

A session changes its context, its store and its registry in a dozen ways, and many of them
can fail, some halfway through a text. None of this shows afterwards. `step_took` says what
any step comes to: it fails and leaves the session as it was, or it reads, or it makes one
`Write`, which is an `Edit` of one component and leaves the other two alone.

So each component is what its own edits make of it, in the order of the steps that
succeeded (`run_entries`), and the entry of a name is decided by the last edit that has
anything to say about it (`replay_apply`). Nor does any edit bind the empty name in a
context: `insert` refuses it, and a context that is loaded is made by `insert`.
-/

namespace TemplateTree

/-! ## Edits -/

/-- A change to entries that are looked up by name. -/
inductive Edit (α : Type) where
  | put (name : String) (a : α)
  | drop (name : String)
  /-- All entries give way to these. -/
  | replace (entries : String → Option α)

namespace Edit

variable {α : Type}

/-- The entry of a name after the edit, if the edit has to do with that name. -/
def effect? : Edit α → String → Option (Option α)
  | .put name a, other => if name = other then some (some a) else none
  | .drop name, other => if name = other then some none else none
  | .replace entries, other => some (entries other)

/-- The entries after the edit. -/
def apply (edit : Edit α) (entries : String → Option α) : String → Option α :=
  fun name => (edit.effect? name).getD (entries name)

theorem apply_put (name : String) (a : α) (entries : String → Option α) (other : String) :
    (put name a).apply entries other = if name = other then some a else entries other := by
  rw [apply, effect?]
  split
  · rfl
  · rfl

theorem apply_drop (name : String) (entries : String → Option α) (other : String) :
    (drop name).apply entries other = if name = other then none else entries other := by
  rw [apply, effect?]
  split
  · rfl
  · rfl

end Edit

/-- The entries after several edits, one after the other. -/
def replay {α : Type} (edits : List (Edit α)) (entries : String → Option α) :
    String → Option α :=
  edits.foldl (fun entries edit => edit.apply entries) entries

/-- The last edit that has to do with a name decides. -/
theorem replay_apply {α : Type} (edits : List (Edit α)) (entries : String → Option α)
    (name : String) :
    replay edits entries name = (edits.reverse.findSome? (·.effect? name)).getD (entries name) := by
  induction edits generalizing entries with
  | nil => rfl
  | cons edit edits ih =>
      rw [List.reverse_cons, List.findSome?_append]
      show replay edits (edit.apply entries) name = _
      rw [ih, Edit.apply]
      cases edits.reverse.findSome? (·.effect? name) with
      | none =>
          rw [Option.none_or, List.findSome?_singleton]
          rfl
      | some entry => rfl

/-! ## Writes -/

/-- A change to one component of a session. -/
inductive Write where
  | context (edit : Edit Value)
  | store (edit : Edit Template)
  | tags (edit : Edit Handler)

namespace Write

/-- The component of the write is edited, and nothing else is changed. -/
def Changes (before after : Session) : Write → Prop
  | .context edit =>
      after.context.get? = edit.apply before.context.get?
        ∧ after.store = before.store ∧ after.tags = before.tags
  | .store edit =>
      after.context = before.context
        ∧ (after.store[·]?) = edit.apply (before.store[·]?) ∧ after.tags = before.tags
  | .tags edit =>
      after.context = before.context ∧ after.store = before.store
        ∧ after.tags.get? = edit.apply before.tags.get?

def contextEdit? : Write → Option (Edit Value)
  | .context edit => some edit
  | .store _ | .tags _ => none

def storeEdit? : Write → Option (Edit Template)
  | .store edit => some edit
  | .context _ | .tags _ => none

def tagsEdit? : Write → Option (Edit Handler)
  | .tags edit => some edit
  | .context _ | .store _ => none

section Changes

variable {write : Write} {before after : Session}

theorem Changes.context (h : write.Changes before after) :
    after.context.get? = replay write.contextEdit?.toList before.context.get? := by
  cases write with
  | context edit => exact h.1
  | store edit | tags edit => exact congrArg Context.get? h.1

theorem Changes.store (h : write.Changes before after) :
    (after.store[·]?) = replay write.storeEdit?.toList (before.store[·]?) := by
  cases write with
  | store edit => exact h.2.1
  | context edit | tags edit => exact congrArg (fun (store : Store) => (store[·]?)) h.2.1

theorem Changes.tags (h : write.Changes before after) :
    after.tags.get? = replay write.tagsEdit?.toList before.tags.get? := by
  cases write with
  | tags edit => exact h.2.2
  | context edit | store edit => exact congrArg Registry.get? h.2.2

end Changes

end Write

/-- The write that a step makes if it succeeds. What cannot be loaded is not written. -/
def Step.write? : Step → Option Write
  | .insert name value | .bind name value => some (.context (.put name value))
  | .loadContext source =>
      source.load.toOption.map fun context => .context (.replace context.get?)
  | .storeTemplate key source | .loadTemplate key source =>
      source.load.toOption.map fun template => .store (.put key template)
  | .replaceTags tags => some (.tags (.replace tags.get?))
  | .addTag name handler => some (.tags (.put name handler))
  | .removeTag name => some (.tags (.drop name))
  | .lookup _ | .isBound _ | .showContext | .lookupInScope _ | .decide _ | .lookupTemplate _
  | .showStore | .hasTag _ | .showTags | .render _ | .renderWithStore _ | .renderNamed _ => none

/-- The answer to a step that gives back what it replaces is the entry that was there. -/
def Step.GivesBack (before : Session) : Step → Answer → Prop
  | .insert name _, answer => answer = .oldValue (before.context.get? name)
  | .storeTemplate key _, answer => answer = .oldTemplate before.store[key]?
  | .addTag name _, answer => answer = .tagReplaced (before.tags.get? name)
  | .removeTag name, answer => answer = .tagRemoved (before.tags.get? name)
  | _, _ => True

/-! ## The empty name -/

/-- The write does not bind the empty name in the context. -/
def Write.Named (write : Write) : Prop :=
  ∀ edit, write.contextEdit? = some edit → ∀ value, edit.effect? "" ≠ some (some value)

namespace Context

variable {c d : Context} {name : String} {value : Value}

theorem ne_empty_of_insert (h : c.insert name value = .ok d) : name ≠ "" := by
  intro hname
  rw [insert_eq_error_iff.mpr ⟨hname, rfl⟩] at h
  cases h

theorem get?_insert_empty (h : c.insert name value = .ok d) (hc : c.get? "" = none) :
    d.get? "" = none := by
  rw [get?_insert h, if_neg (ne_empty_of_insert h), hc]

theorem get?_foldlM_insert {bindings : List (String × Value)} (hc : c.get? "" = none)
    (h : bindings.foldlM (fun context binding => context.insert binding.1 binding.2) c = .ok d) :
    d.get? "" = none := by
  induction bindings generalizing c with
  | nil =>
      cases h
      exact hc
  | cons binding bindings ih =>
      rw [List.foldlM_cons, bind_eq_ok_iff] at h
      obtain ⟨c', hinsert, h⟩ := h
      exact ih (get?_insert_empty hinsert hc) h

theorem get?_ofJson {data : Json} (h : ofJson data = .ok d) : d.get? "" = none := by
  cases data with
  | object members => exact (loads_ofJson members).get?_empty h
  | _ => cases h

theorem get?_ofYaml {data : Yaml} (h : ofYaml data = .ok d) : d.get? "" = none := by
  cases data with
  | mapping members => exact (loads_ofYaml members).get?_empty h
  | null =>
      cases h
      exact get?_empty ""
  | _ => cases h

end Context

theorem ContextSource.get?_load {source : ContextSource} {context : Context}
    (h : source.load = .ok context) : context.get? "" = none := by
  cases source with
  | bindings pairs => exact Context.get?_foldlM_insert (Context.get?_empty "") (mapError_eq_ok_iff.mp h)
  | json text =>
      rw [load, bind_eq_ok_iff] at h
      obtain ⟨data, -, h⟩ := h
      exact Context.get?_ofJson (mapError_eq_ok_iff.mp h)
  | yaml text =>
      rw [load, bind_eq_ok_iff] at h
      obtain ⟨data, -, h⟩ := h
      exact Context.get?_ofYaml (mapError_eq_ok_iff.mp h)
  | yamlData data => exact Context.get?_ofYaml (mapError_eq_ok_iff.mp h)

/-! ## Steps -/

/-- How a step ends: with which answer, and in which session. -/
inductive Took (before : Session) (step : Step) : Except StepError Answer × Session → Prop where
  | failed (e : StepError) : Took before step (.error e, before)
  | read (answer : Answer) (hwrite : step.write? = none) : Took before step (.ok answer, before)
  | wrote {answer : Answer} {write : Write} {after : Session}
      (hwrite : step.write? = some write) (hchanges : write.Changes before after)
      (hnamed : write.Named) (hanswer : step.GivesBack before answer) :
      Took before step (.ok answer, after)

section Steps

variable {before : Session} {step : Step}

namespace Took

variable {outcome : Except StepError Answer × Session}

theorem eq_of_error {e : StepError} (h : Took before step outcome) (he : outcome.1 = .error e) :
    outcome.2 = before := by
  cases h with
  | failed e => rfl
  | read answer _ => rfl
  | wrote => cases he

theorem eq_of_write?_eq_none (h : Took before step outcome) (hnone : step.write? = none) :
    outcome.2 = before := by
  cases h with
  | failed e => rfl
  | read answer _ => rfl
  | wrote hwrite =>
      rw [hnone] at hwrite
      cases hwrite

theorem of_ok {answer : Answer} {write : Write} (h : Took before step outcome)
    (hok : outcome.1 = .ok answer) (hwrite : step.write? = some write) :
    write.Changes before outcome.2 ∧ step.GivesBack before answer := by
  cases h with
  | failed e => cases hok
  | read answer' hnone =>
      rw [hnone] at hwrite
      cases hwrite
  | wrote hwrite' hchanges _ hanswer =>
      cases hok
      rw [hwrite'] at hwrite
      cases hwrite
      exact ⟨hchanges, hanswer⟩

/-- No step binds the empty name. -/
theorem get?_empty (h : Took before step outcome) (hbefore : before.context.get? "" = none) :
    outcome.2.context.get? "" = none := by
  cases h with
  | failed e => exact hbefore
  | read answer _ => exact hbefore
  | @wrote answer write after _ hchanges hnamed _ =>
      cases write with
      | context edit =>
          rw [hchanges.1, Edit.apply, hbefore]
          match heffect : edit.effect? "" with
          | none | some none => rfl
          | some (some value) => exact absurd heffect (hnamed edit rfl value)
      | store edit => rw [hchanges.1, hbefore]
      | tags edit => rw [hchanges.1, hbefore]

end Took

theorem took_loading {α : Type} {loaded : Except LoadError α}
    {next : α → Except StepError Answer × Session}
    (hnext : ∀ a, loaded = .ok a → Took before step (next a)) :
    Took before step (before.loading loaded next) := by
  cases loaded with
  | error e => exact .failed _
  | ok a => exact hnext a rfl

theorem took_rendered (hwrite : step.write? = none) (result : Traced String) :
    Took before step (Session.rendered result, before) := by
  rw [Session.rendered]
  split
  · exact .read _ hwrite
  · exact .failed _

theorem changes_put {context : Context} {name : String} {value : Value}
    (h : before.context.insert name value = .ok context) :
    (Write.context (.put name value)).Changes before { before with context } := by
  refine ⟨funext fun other => ?_, rfl, rfl⟩
  rw [Context.get?_insert h, Edit.apply_put]

theorem named_put {context : Context} {name : String} {value : Value}
    (h : before.context.insert name value = .ok context) :
    (Write.context (.put name value)).Named := by
  intro edit hedit value'
  cases hedit
  rw [Edit.effect?, if_neg (Context.ne_empty_of_insert h)]
  exact nofun

theorem changes_storePut (key : String) (template : Template) :
    (Write.store (.put key template)).Changes before
      { before with store := before.store.insert key template } := by
  refine ⟨rfl, funext fun other => ?_, rfl⟩
  simp [Edit.apply_put, Std.ExtTreeMap.getElem?_insert]

/-- A step fails and changes nothing, or reads, or makes its write. -/
theorem step_took (before : Session) (step : Step) : Took before step (before.step step) := by
  cases step with
  | insert name value =>
      refine took_loading fun context h => ?_
      have hinsert := mapError_eq_ok_iff.mp h
      exact .wrote rfl (changes_put hinsert) (named_put hinsert) rfl
  | bind name value =>
      refine took_loading fun context h => ?_
      have hinsert := mapError_eq_ok_iff.mp h
      exact .wrote rfl (changes_put hinsert) (named_put hinsert) trivial
  | loadContext source =>
      refine took_loading fun context h => ?_
      have hwrite : (Step.loadContext source).write? = some (.context (.replace context.get?)) := by
        rw [Step.write?, h]
        rfl
      refine .wrote hwrite ⟨rfl, rfl, rfl⟩ ?_ trivial
      intro edit hedit value
      cases hedit
      rw [Edit.effect?, ContextSource.get?_load h]
      exact nofun
  | storeTemplate key source =>
      refine took_loading fun template h => ?_
      have hwrite : (Step.storeTemplate key source).write? = some (.store (.put key template)) := by
        rw [Step.write?, h]
        rfl
      exact .wrote hwrite (changes_storePut key template) nofun rfl
  | loadTemplate key source =>
      refine took_loading fun template h => ?_
      have hwrite : (Step.loadTemplate key source).write? = some (.store (.put key template)) := by
        rw [Step.write?, h]
        rfl
      exact .wrote hwrite (changes_storePut key template) nofun trivial
  | replaceTags tags => exact .wrote rfl ⟨rfl, rfl, rfl⟩ nofun trivial
  | addTag name handler =>
      refine .wrote rfl ⟨rfl, rfl, funext fun other => ?_⟩ nofun rfl
      rw [Registry.get?_insert, Edit.apply_put]
  | removeTag name =>
      refine .wrote rfl ⟨rfl, rfl, funext fun other => ?_⟩ nofun rfl
      rw [Registry.get?_erase, Edit.apply_drop]
  | decide source => exact took_loading fun nodes _ => .read _ rfl
  | render source | renderWithStore source =>
      exact took_loading fun template _ => took_rendered rfl _
  | renderNamed key => exact took_rendered rfl _
  | _ => exact .read _ rfl

end Steps

/-! ## Runs -/

/-- The writes of the steps that succeed, in order. -/
def Session.writes (session : Session) : List Step → List Write
  | [] => []
  | next :: steps =>
      let (result, session) := session.step next
      match result with
      | .ok _ => next.write?.toList ++ session.writes steps
      | .error _ => session.writes steps

section Runs

theorem run_cons (session : Session) (step : Step) (steps : List Step) :
    (session.run (step :: steps)).2 = ((session.step step).2.run steps).2 :=
  rfl

/-- What each write makes of some entries, all writes make of them one after the other. -/
theorem run_entries {α : Type} (entries : Session → String → Option α)
    (edit? : Write → Option (Edit α))
    (hentries : ∀ {write before after}, write.Changes before after →
      entries after = replay (edit? write).toList (entries before))
    (session : Session) (steps : List Step) :
    entries (session.run steps).2
      = replay ((session.writes steps).filterMap edit?) (entries session) := by
  induction steps generalizing session with
  | nil => rfl
  | cons step steps ih =>
      rw [run_cons, ih]
      have htook := step_took session step
      rcases hstep : session.step step with ⟨result, after⟩
      rw [hstep] at htook
      cases htook with
      | failed e => rw [Session.writes, hstep]
      | read answer hwrite =>
          rw [Session.writes, hstep, hwrite]
          rfl
      | @wrote answer write after hwrite hchanges _ _ =>
          rw [Session.writes, hstep, hwrite, hentries hchanges]
          show _ = replay ((write :: after.writes steps).filterMap edit?) (entries session)
          cases hedit : edit? write with
          | none => rw [List.filterMap_cons_none hedit]; rfl
          | some edit => rw [List.filterMap_cons_some hedit]; rfl

theorem get?_run_empty {session : Session} (h : session.context.get? "" = none)
    (steps : List Step) : (session.run steps).2.context.get? "" = none := by
  induction steps generalizing session with
  | nil => exact h
  | cons step steps ih => exact ih ((step_took session step).get?_empty h)

end Runs

/-- A step that fails leaves the session as it was, and so does a step that only reads, as a
render does. One that writes changes one component, at the written name or, for a whole
context or registry, altogether; `insert`, the storing of a template and the adding and
removing of a tag give back what was there, while `bind` and what loads something do not. So
after any steps each component is what the writes of the successful steps make of it, the
last one that has to do with a name decides what that name stands for, and no context that
can be reached binds the empty name. -/
theorem run_replays (session : Session) (steps : List Step) :
    (∀ (before : Session) (step : Step) (e : StepError),
        (before.step step).1 = .error e → (before.step step).2 = before)
      ∧ (∀ (before : Session) (source : TemplateSource) (key : String),
        (before.step (.render source)).2 = before
          ∧ (before.step (.renderWithStore source)).2 = before
          ∧ (before.step (.renderNamed key)).2 = before)
      ∧ (∀ (before : Session) (step : Step), step.write? = none → (before.step step).2 = before)
      ∧ (∀ (before : Session) (step : Step) (answer : Answer) (write : Write),
        (before.step step).1 = .ok answer → step.write? = some write →
          write.Changes before (before.step step).2 ∧ step.GivesBack before answer)
      ∧ (session.run steps).2.context.get?
          = replay ((session.writes steps).filterMap Write.contextEdit?) session.context.get?
      ∧ ((session.run steps).2.store[·]?)
          = replay ((session.writes steps).filterMap Write.storeEdit?) (session.store[·]?)
      ∧ (session.run steps).2.tags.get?
          = replay ((session.writes steps).filterMap Write.tagsEdit?) session.tags.get?
      ∧ (∀ (α : Type) (edits : List (Edit α)) (entries : String → Option α) (name : String),
        replay edits entries name
          = (edits.reverse.findSome? (·.effect? name)).getD (entries name))
      ∧ (Session.initial.run steps).2.context.get? "" = none := by
  have hread : ∀ (before : Session) (step : Step),
      step.write? = none → (before.step step).2 = before :=
    fun before step hwrite => (step_took before step).eq_of_write?_eq_none hwrite
  refine ⟨fun before step e h => (step_took before step).eq_of_error h,
    fun before source key => ⟨hread before _ rfl, hread before _ rfl, hread before _ rfl⟩,
    hread, fun before step answer write h hwrite => (step_took before step).of_ok h hwrite,
    run_entries (·.context.get?) Write.contextEdit? (·.context) session steps,
    run_entries (·.store[·]?) Write.storeEdit? (·.store) session steps,
    run_entries (·.tags.get?) Write.tagsEdit? (·.tags) session steps,
    fun α => replay_apply, get?_run_empty (Context.get?_empty "") steps⟩

/-- Steps of which the second and the fourth fail, the latter after a first binding. -/
def rebinding : List Step :=
  [.insert "x" (.text "a"), .insert "" (.text "b"), .bind "x" (.text "c"),
    .loadContext (.bindings [("x", .text "d"), ("", .text "e")]),
    .storeTemplate "k" (.nodes [.var "x"]), .renderNamed "k"]

theorem run_replays_rebinding :
    (Session.initial.run rebinding).2.context.get? "x" = some (.text "c") := by
  obtain ⟨-, -, -, -, hcontext, -, -, hlast, -⟩ := run_replays Session.initial rebinding
  rw [hcontext, hlast]
  decide +kernel

/-- Loading a template into the store answers the same whatever it replaces. -/
theorem loadTemplate_forgets :
    let stored (text : String) := Session.initial.step (.storeTemplate "k" (.nodes [.raw text]))
    (stored "a").2.store["k"]? = some [.raw "a"] ∧ (stored "b").2.store["k"]? = some [.raw "b"]
      ∧ ((stored "a").2.step (.loadTemplate "k" (.json "[]"))).1 = .ok (.size 1)
      ∧ ((stored "b").2.step (.loadTemplate "k" (.json "[]"))).1 = .ok (.size 1) := by
  refine ⟨?_, ?_, ?_, ?_⟩
  · decide +kernel
  · decide +kernel
  · rfl
  · rfl

end TemplateTree
