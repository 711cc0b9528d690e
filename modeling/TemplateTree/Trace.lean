import TemplateTree.Error

/-!
# Records of a render call

While a template is rendered, what happens is recorded: which base templates
are fetched, which parts of a template are passed over, which tags and loops
are run. A `Record` says what happened; `level`, `message` and `fields` are
how it is shown.

`Traced` is a computation that writes records and may fail. A failure ends it,
but the records written before the failure stay.
-/

namespace TemplateTree

/-- How much a record matters. -/
inductive Level where
  | trace | debug | warn
  deriving DecidableEq, Repr

def Level.name : Level → String
  | .trace => "TRACE"
  | .debug => "DEBUG"
  | .warn => "WARN"

/-- Something that happened during a render call. -/
inductive Record where
  /-- A template with this many top-level nodes is about to be rendered. -/
  | entered (nodes : Nat)
  /-- A template extends `base`, so its later `extend` node has no effect. -/
  | ignoredExtend (base ignored : String)
  /-- A top-level node beside an `extend` node is neither block nor `extend`. -/
  | discarded (kind : Kind)
  /-- A base template is fetched; `depth` templates are being resolved already. -/
  | resolving (base : String) (depth : Nat)
  | tag (name : String) (params : Nat)
  | loop (item : String) (items : Nat)
  deriving DecidableEq, Repr

namespace Record

def level : Record → Level
  | .entered _ | .discarded _ | .resolving _ _ => .debug
  | .ignoredExtend _ _ => .warn
  | .tag _ _ | .loop _ _ => .trace

def message : Record → String
  | .entered _ => "span render_composed"
  | .ignoredExtend _ _ => "ignoring additional extend node"
  | .discarded _ => "discarding content beside extend node"
  | .resolving _ _ => "resolving base template"
  | .tag _ _ => "rendering tag"
  | .loop _ _ => "rendering loop"

/-- The particulars of a record, each a name with its text. -/
def fields : Record → List (String × String)
  | .entered nodes => [("nodes", toString nodes)]
  | .ignoredExtend base ignored => [("base", base), ("ignored", ignored)]
  | .discarded kind => [("kind", kind.name)]
  | .resolving base depth => [("base", base), ("depth", toString depth)]
  | .tag name params => [("tag", name), ("params", toString params)]
  | .loop item items => [("variable", item), ("items", toString items)]

end Record

/-- What a computation recorded, in order, and how it ended. -/
structure Traced (α : Type) where
  records : List Record
  result : Except RenderError α

namespace Traced

instance : Monad Traced where
  pure a := ⟨[], .ok a⟩
  bind x f :=
    match x.result with
    | .ok a => ⟨x.records ++ (f a).records, (f a).result⟩
    | .error e => ⟨x.records, .error e⟩

def record (r : Record) : Traced Unit := ⟨[r], .ok ()⟩

def recordAll (rs : List Record) : Traced Unit := ⟨rs, .ok ()⟩

def fail {α : Type} (e : RenderError) : Traced α := ⟨[], .error e⟩

/-- Ends as told, without a record. -/
def ofExcept {α : Type} (result : Except RenderError α) : Traced α := ⟨[], result⟩

@[simp] theorem pure_eq {α : Type} (a : α) : (pure a : Traced α) = ⟨[], .ok a⟩ := rfl

@[simp] theorem bind_ok {α β : Type} (rs : List Record) (a : α) (f : α → Traced β) :
    (⟨rs, .ok a⟩ >>= f : Traced β) = ⟨rs ++ (f a).records, (f a).result⟩ := rfl

@[simp] theorem bind_error {α β : Type} (rs : List Record) (e : RenderError) (f : α → Traced β) :
    (⟨rs, .error e⟩ >>= f : Traced β) = ⟨rs, .error e⟩ := rfl

instance : LawfulMonad Traced := LawfulMonad.mk' Traced
  (fun x => by obtain ⟨rs, e | a⟩ := x <;> simp [Functor.map])
  (fun a f => by simp)
  (fun x f g => by
    obtain ⟨rs, e | a⟩ := x
    · rfl
    · simp only [bind_ok]
      obtain ⟨ss, e | b⟩ := f a <;> simp [List.append_assoc])

end Traced

end TemplateTree
