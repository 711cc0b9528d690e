import TemplateTree.Render
import TemplateTree.Source

/-!
# Sessions

A session holds a context, a store and a registry, and takes steps: some look
something up, some change one of the three, some render a template. `step`
gives the answer together with the session afterwards. A step that fails
leaves the session as it was, and rendering leaves it so in any case.
-/

namespace TemplateTree

structure Session where
  context : Context
  store : Store
  tags : Registry

/-- A session without bindings and templates, with the built-in tags. -/
def Session.initial : Session := ⟨∅, ∅, .builtin⟩

inductive Step where
  /-- Binds a name and asks for the value that it had. -/
  | insert (name : String) (value : Value)
  | bind (name : String) (value : Value)
  /-- Puts another context in place of the present one. -/
  | loadContext (source : ContextSource)
  | lookup (name : String)
  | isBound (name : String)
  | showContext
  /-- Looks a name up in the scope outside all loops. -/
  | lookupInScope (name : String)
  /-- Reads each node of a template as a condition. -/
  | decide (source : TemplateSource)
  | storeTemplate (key : String) (source : TemplateSource)
  /-- Puts a template into the store. -/
  | loadTemplate (key : String) (source : TemplateSource)
  | lookupTemplate (key : String)
  | showStore
  /-- Puts another registry in place of the present one. -/
  | replaceTags (tags : Registry)
  | addTag (name : String) (handler : Handler)
  | removeTag (name : String)
  | hasTag (name : String)
  | showTags
  /-- Renders a template without the store. -/
  | render (source : TemplateSource)
  | renderWithStore (source : TemplateSource)
  | renderNamed (key : String)

inductive Answer where
  | oldValue (value? : Option Value)
  | size (n : Nat)
  | value (value? : Option Value)
  | isBound (b : Bool)
  | context (context : Context)
  | truths (truths : List (Option Bool))
  | oldTemplate (template? : Option Template)
  | template (template? : Option Template)
  | storeSize (n : Nat)
  | replacedTags (description : String)
  | tagReplaced (handler? : Option Handler)
  | tagRemoved (handler? : Option Handler)
  | hasTag (contains found : Bool)
  | tags (names : List String) (description : String)
  | output (text : String)

inductive StepError where
  | load (error : LoadError)
  | render (error : RenderError)

namespace Session

/-- Loads something and goes on with it; if it cannot be loaded, nothing
changes. -/
def loading {α : Type} (session : Session) (loaded : Except LoadError α)
    (next : α → Except StepError Answer × Session) : Except StepError Answer × Session :=
  match loaded with
  | .ok a => next a
  | .error e => (.error (.load e), session)

def rendered (result : Traced String) : Except StepError Answer :=
  match result.result with
  | .ok text => .ok (.output text)
  | .error e => .error (.render e)

/-- Takes a step: its answer, and the session afterwards. -/
def step (session : Session) : Step → Except StepError Answer × Session
  | .insert name value =>
      session.loading ((session.context.insert name value).mapError .value) fun context =>
        (.ok (.oldValue (session.context.get? name)), { session with context })
  | .bind name value =>
      session.loading ((session.context.insert name value).mapError .value) fun context =>
        (.ok (.size context.size), { session with context })
  | .loadContext source =>
      session.loading source.load fun context =>
        (.ok (.size context.size), { session with context })
  | .lookup name => (.ok (.value (session.context.get? name)), session)
  | .isBound name => (.ok (.isBound (session.context.contains name)), session)
  | .showContext => (.ok (.context session.context), session)
  | .lookupInScope name =>
      (.ok (.value ((Scope.ofContext session.context).get? name)), session)
  | .decide source =>
      session.loading source.load fun nodes =>
        (.ok (.truths (nodes.map (Scope.ofContext session.context).truth?)), session)
  | .storeTemplate key source =>
      session.loading source.load fun template =>
        (.ok (.oldTemplate session.store[key]?),
          { session with store := session.store.insert key template })
  | .loadTemplate key source =>
      session.loading source.load fun template =>
        let store := session.store.insert key template
        (.ok (.size store.size), { session with store })
  | .lookupTemplate key => (.ok (.template session.store[key]?), session)
  | .showStore => (.ok (.storeSize session.store.size), session)
  | .replaceTags tags => (.ok (.replacedTags tags.describe), { session with tags })
  | .addTag name handler =>
      (.ok (.tagReplaced (session.tags.get? name)),
        { session with tags := session.tags.insert name handler })
  | .removeTag name =>
      (.ok (.tagRemoved (session.tags.get? name)),
        { session with tags := session.tags.erase name })
  | .hasTag name =>
      (.ok (.hasTag (session.tags.contains name) (session.tags.get? name).isSome), session)
  | .showTags => (.ok (.tags session.tags.names session.tags.describe), session)
  | .render source =>
      session.loading source.load fun template =>
        (rendered (session.tags.render ∅ session.context template), session)
  | .renderWithStore source =>
      session.loading source.load fun template =>
        (rendered (session.tags.render session.store session.context template), session)
  | .renderNamed key =>
      (rendered (session.tags.renderNamed session.store session.context key), session)

/-- Takes steps one after the other: all answers, and the session at the end. -/
def run (session : Session) : List Step → List (Except StepError Answer) × Session
  | [] => ([], session)
  | next :: steps =>
      let (answer, session) := session.step next
      let (answers, session) := session.run steps
      (answer :: answers, session)

end Session

end TemplateTree
