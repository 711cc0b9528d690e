import TemplateTree.Proofs.ExtendChain
import Mathlib.Data.Finset.Card

/-!
# One stack for all calls

`resolve` hands the active keys down to the content that it enters, and `inherit` does so with the
keys of the chain. Nothing has to be undone: whoever has handed a list down still has the list. And
both are defined by recursion on the keys that are left, so that they end because of how they are
defined. Here the same two walks are procedures on one stack, which all calls share. A key is
pushed before what stands under it is entered and popped when that is left, in whatever way, and
nothing is said beforehand about an end: a procedure is given a limit on how deep its calls may go,
and comes to nothing where that does not suffice.

What the recursive definitions take for granted has to be shown then, and `Returns` is the
statement that carries it. From any stack every one of the procedures returns once the limit is
high enough, with the stack as it was and with what `resolve` or `inherit` comes to; a lower limit
breaks it off and has no other effect. The stack also notes the calls that are made, for there is
more to say of those on the way: above the keys that the first call found, each has one key for each
content around it, no key twice, and none without content (`Inside`). So contents are nested no
deeper than there are keys with content. The induction is the one by which `resolve` and `inherit`
are defined; inside one content it is on the tree, and there nothing is entered.
-/

namespace TemplateTree

/-- A call of a procedure: how many contents or templates have been entered around it, and the
keys that were on the stack. -/
structure Invocation where
  depth : Nat
  active : List String
  deriving DecidableEq, Repr

/-- The keys that are active, the last pushed first, and the calls made so far, the last first. -/
structure Stack where
  active : List String
  calls : List Invocation
  deriving DecidableEq, Repr

namespace Stack

def push (stack : Stack) (key : String) : Stack :=
  { stack with active := key :: stack.active }

def pop (stack : Stack) : Stack :=
  { stack with active := stack.active.tail }

end Stack

/-- Something done with the stack. It may be broken off (`none`); if it returns, it gives a value
or a failure, and in either case there is the stack that it leaves. -/
abbrev Procedure (α : Type) := ExceptT RenderError (StateT Stack Option) α

namespace Procedure

/-- What is broken off, since calls have gone as deep as they may. -/
def brokenOff {α : Type} : Procedure α :=
  fun _ => none

/-- Notes a call. -/
def called (depth : Nat) : Procedure Unit :=
  modify fun stack => { stack with calls := ⟨depth, stack.active⟩ :: stack.calls }

/-- Goes on unless the key is active. -/
def unlessActive {α : Type} (key : String) (procedure : Procedure α) : Procedure α := do
  if key ∈ (← get).active then throw (.compositionCycle key) else procedure

/-- Runs a procedure with a key on top of the stack, and takes off the top when it is left. -/
def under {α : Type} (key : String) (procedure : Procedure α) : Procedure α := fun stack => do
  let (outcome, stack) ← procedure.run.run (stack.push key)
  return (outcome, stack.pop)

/-- Runs a procedure on a stack of its own. -/
def apart {α : Type} (procedure : Procedure α) : Procedure α := fun stack => do
  let (outcome, _) ← procedure.run.run ⟨[], []⟩
  return (outcome, stack)

end Procedure

open Procedure

/-! ## The procedures

`limit` is how many calls may go on, one inside the other; `depth` only serves to be noted. -/

namespace Assembly

mutual

/-- Assembles a node. -/
def runNode (a : Assembly) (limit depth : Nat) (node : Node) : Procedure (List Node) :=
  match limit with
  | 0 => brokenOff
  | limit + 1 => do
      called depth
      match node with
      | .block _ _ | .slot _ => a.runPlace limit depth node
      | .tag name params => return [.tag name (← a.runNodes limit depth params)]
      | .loop item source body => return [.loop item source (← a.runNodes limit depth body)]
      | .conditional chain => return [.conditional (← a.runChain limit depth chain)]
      | .raw _ | .var _ | .constant _ | .extend _ _ => return [node]
termination_by structural limit

/-- Puts a block or slot into place. -/
def runPlace (a : Assembly) (limit depth : Nat) (node : Node) : Procedure (List Node) :=
  match limit with
  | 0 => brokenOff
  | limit + 1 => do
      called depth
      match node with
      | .block key body =>
          match a.replacements[key]? with
          | some content =>
              return a.marking.wrap key (← a.runContent limit depth key content)
          | none => return a.marking.wrap key (← a.runNodes limit depth body)
      | .slot key =>
          match a.content? key with
          | some content =>
              return a.marking.wrap key (← a.runContent limit depth key content)
          | none => return a.marking.wrap key []
      | node => throw (.unresolvedNode node.kind)
termination_by structural limit

/-- Assembles the arms of a conditional, the last first. -/
def runChain (a : Assembly) (limit depth : Nat) (chain : Chain) : Procedure Chain :=
  match limit with
  | 0 => brokenOff
  | limit + 1 => do
      called depth
      match chain with
      | .last condition body => return .last condition (← a.runNodes limit depth body)
      | .more condition body next =>
          let next ← a.runChain limit depth next
          return .more condition (← a.runNodes limit depth body) next
termination_by structural limit

/-- Assembles nodes one after the other. -/
def runNodes (a : Assembly) (limit depth : Nat) (nodes : List Node) : Procedure (List Node) :=
  match limit with
  | 0 => brokenOff
  | limit + 1 => do
      called depth
      match nodes with
      | [] => return []
      | node :: nodes =>
          let first ← a.runNode limit depth node
          return first ++ (← a.runNodes limit depth nodes)
termination_by structural limit

/-- Enters the content of a key, unless it is active. -/
def runContent (a : Assembly) (limit depth : Nat) (key : String) (content : List Node) :
    Procedure (List Node) :=
  match limit with
  | 0 => brokenOff
  | limit + 1 => do
      called depth
      unlessActive key (under key (a.runNodes limit (depth + 1) content))
termination_by structural limit

end

end Assembly

namespace Store

mutual

/-- Puts a template onto the one it is built on, with a stack of its own for the contents. -/
def runInherit (store : Store) (limit depth : Nat) (nodes : Template) : Procedure Template :=
  match limit with
  | 0 => brokenOff
  | limit + 1 => do
      called depth
      match extension? nodes with
      | none => return nodes
      | some (key, exports) =>
          let base ← store.runBase limit depth key
          apart ((Assembly.onto (supplied nodes exports) base).runNodes limit 0 base)

/-- Enters the template stored under a key, unless it is being resolved. -/
def runBase (store : Store) (limit depth : Nat) (key : String) : Procedure Template :=
  match limit with
  | 0 => brokenOff
  | limit + 1 => do
      called depth
      unlessActive key <| match store[key]? with
        | none => throw (.templateNotFound key)
        | some base => under key (store.runInherit limit (depth + 1) base)

end

end Store

/-! ## Returning -/

/-- Started on these keys, the procedure returns if the limit suffices, with this outcome and on
these keys, and `P` holds of all calls made on the way. Some limit does suffice, and so does any
higher one. -/
def Procedure.Returns {α : Type} (procedure : Nat → Procedure α) (active : List String)
    (outcome : Except RenderError α) (P : Invocation → Prop) : Prop :=
  ∀ calls, ∃ made least, (∀ limit, (procedure limit).run.run ⟨active, calls⟩
      = if least ≤ limit then some (outcome, ⟨active, made ++ calls⟩) else none)
    ∧ ∀ call ∈ made, P call

namespace Procedure

variable {α β : Type} {active : List String} {P Q : Invocation → Prop}

theorem run_bind (procedure : Procedure α) (f : α → Procedure β) (stack : Stack) :
    (procedure >>= f).run.run stack = (procedure.run.run stack).bind fun (outcome, stack) =>
      match outcome with
      | .ok a => (f a).run.run stack
      | .error e => some (.error e, stack) := by
  show Option.bind (procedure stack) _ = _
  congr 1
  funext ⟨outcome, stack⟩
  cases outcome with
  | error e => rfl
  | ok a => rfl

theorem returns_pure (a : α) : Returns (fun _ => pure a) active (.ok a) P :=
  fun _ => ⟨[], 0, fun _ => rfl, fun _ hcall => nomatch hcall⟩

theorem returns_throw (e : RenderError) :
    Returns (fun _ => (throw e : Procedure α)) active (.error e) P :=
  fun _ => ⟨[], 0, fun _ => rfl, fun _ hcall => nomatch hcall⟩

namespace Returns

variable {procedure : Nat → Procedure α} {outcome : Except RenderError α}

theorem imp (h : Returns procedure active outcome P) (himp : ∀ call, P call → Q call) :
    Returns procedure active outcome Q := by
  intro calls
  obtain ⟨made, least, hrun, hmade⟩ := h calls
  exact ⟨made, least, hrun, fun call hcall => himp call (hmade call hcall)⟩

/-- A call takes one level, and what it does has the others. -/
theorem of_succ (hzero : procedure 0 = brokenOff)
    (h : Returns (fun limit => procedure (limit + 1)) active outcome P) :
    Returns procedure active outcome P := by
  intro calls
  obtain ⟨made, least, hrun, hmade⟩ := h calls
  refine ⟨made, least + 1, fun limit => ?_, hmade⟩
  cases limit with
  | zero =>
      rw [hzero, if_neg (Nat.not_succ_le_zero least)]
      rfl
  | succ limit => simp only [hrun, Nat.add_le_add_iff_right]

/-- One thing after the other: the limit has to suffice for both. -/
theorem bind {f : Nat → α → Procedure β} {rest : α → Except RenderError β}
    (h : Returns procedure active outcome P)
    (hf : ∀ a, outcome = .ok a → Returns (fun limit => f limit a) active (rest a) P) :
    Returns (fun limit => procedure limit >>= f limit) active (outcome >>= rest) P := by
  intro calls
  obtain ⟨made, least, hrun, hmade⟩ := h calls
  cases outcome with
  | error e =>
      refine ⟨made, least, fun limit => ?_, hmade⟩
      rw [run_bind, hrun]
      split <;> rfl
  | ok a =>
      obtain ⟨more, least', hrun', hmore⟩ := hf a rfl (made ++ calls)
      refine ⟨more ++ made, max least least', fun limit => ?_,
        List.forall_mem_append.mpr ⟨hmore, hmade⟩⟩
      rw [run_bind, hrun, List.append_assoc]
      by_cases hleast : least ≤ limit
      · simp only [Nat.max_le, hleast, true_and]
        exact hrun' limit
      · rw [if_neg hleast, if_neg fun hmax => hleast (Nat.max_le.mp hmax).1]
        rfl

theorem bind_pure (h : Returns procedure active outcome P) (f : α → β) :
    Returns (fun limit => procedure limit >>= fun a => pure (f a)) active
      (outcome >>= fun a => pure (f a)) P :=
  h.bind fun a _ => returns_pure (f a)

theorem called_bind {depth : Nat} (hcall : P ⟨depth, active⟩)
    (h : Returns procedure active outcome P) :
    Returns (fun limit => called depth >>= fun _ => procedure limit) active outcome P := by
  intro calls
  obtain ⟨made, least, hrun, hmade⟩ := h (⟨depth, active⟩ :: calls)
  refine ⟨made ++ [⟨depth, active⟩], least, fun limit => ?_,
    List.forall_mem_append.mpr ⟨hmade, ?_⟩⟩
  · rw [List.append_assoc]
    exact hrun limit
  · rw [List.forall_mem_singleton]
    exact hcall

theorem unlessActive {key : String}
    (hcycle : key ∈ active → outcome = .error (.compositionCycle key))
    (h : key ∉ active → Returns procedure active outcome P) :
    Returns (fun limit => .unlessActive key (procedure limit)) active outcome P := by
  intro calls
  show ∃ made least, (∀ limit, (if key ∈ active then throw (.compositionCycle key)
      else procedure limit : Procedure α).run.run ⟨active, calls⟩ = _) ∧ _
  by_cases hactive : key ∈ active
  · simp only [hcycle hactive, if_pos hactive]
    exact returns_throw _ calls
  · simp only [if_neg hactive]
    exact h hactive calls

/-- What is done with a key on top returns without it. -/
theorem under {key : String} (h : Returns procedure (key :: active) outcome P) :
    Returns (fun limit => .under key (procedure limit)) active outcome P := by
  intro calls
  obtain ⟨made, least, hrun, hmade⟩ := h calls
  refine ⟨made, least, fun limit => ?_, hmade⟩
  show Option.bind ((procedure limit).run.run ⟨key :: active, calls⟩) _ = _
  rw [hrun]
  split <;> rfl

/-- A procedure with a stack of its own leaves this one alone. -/
theorem apart (h : Returns procedure [] outcome Q) :
    Returns (fun limit => .apart (procedure limit)) active outcome P := by
  intro calls
  obtain ⟨made, least, hrun, -⟩ := h []
  refine ⟨[], least, fun limit => ?_, fun _ hcall => nomatch hcall⟩
  show Option.bind ((procedure limit).run.run ⟨[], []⟩) _ = _
  rw [hrun]
  split <;> rfl

end Returns

end Procedure

/-! ## The calls on the way -/

/-- The call is made inside one at `depth` that found the keys `active`: above these it has a key
for each content that has been entered in between, no key twice, and only keys that `has` allows. -/
def Invocation.Inside (has : String → Prop) (depth : Nat) (active : List String)
    (call : Invocation) : Prop :=
  ∃ entered, call.active = entered ++ active ∧ call.depth = depth + entered.length
    ∧ entered.Nodup ∧ ∀ key ∈ entered, key ∉ active ∧ has key

namespace Invocation

variable {has : String → Prop} {depth : Nat} {active : List String} {call : Invocation}

theorem inside_self : Inside has depth active ⟨depth, active⟩ :=
  ⟨[], rfl, rfl, List.nodup_nil, fun _ hkey => nomatch hkey⟩

theorem Inside.of_entered {key : String} (h : call.Inside has (depth + 1) (key :: active))
    (hnew : key ∉ active) (hkey : has key) : call.Inside has depth active := by
  obtain ⟨entered, hactive, hdepth, hnodup, hentered⟩ := h
  have hfresh : key ∉ entered := fun hmem => (hentered key hmem).1 List.mem_cons_self
  refine ⟨entered ++ [key], ?_, ?_, ?_, ?_⟩
  · rw [hactive, List.append_assoc, List.singleton_append]
  · rw [hdepth, List.length_append, List.length_singleton]
    omega
  · rw [List.nodup_append_comm]
    exact List.nodup_cons.mpr ⟨hfresh, hnodup⟩
  · rw [List.forall_mem_append, List.forall_mem_singleton]
    refine ⟨fun other hother => ?_, hnew, hkey⟩
    exact (hentered other hother).imp_left fun hother' hmem =>
      hother' (List.mem_cons_of_mem key hmem)

theorem Inside.nodup (h : call.Inside has depth active) (hactive : active.Nodup) :
    call.active.Nodup := by
  obtain ⟨entered, hcall, -, hnodup, hentered⟩ := h
  rw [hcall, List.nodup_append]
  exact ⟨hnodup, hactive, fun key hkey other hother heq =>
    (hentered key hkey).1 (heq ▸ hother)⟩

theorem Inside.mem_or {key : String} (h : call.Inside has depth active)
    (hkey : key ∈ call.active) : key ∈ active ∨ has key := by
  obtain ⟨entered, hcall, -, -, hentered⟩ := h
  rw [hcall, List.mem_append] at hkey
  exact hkey.symm.imp_right fun hmem => (hentered key hmem).2

theorem Inside.length_active (h : call.Inside has 0 active) :
    call.active.length = call.depth + active.length := by
  obtain ⟨entered, hcall, hdepth, -⟩ := h
  rw [hcall, hdepth, List.length_append, Nat.zero_add]

/-- Nothing is entered more often than there are keys to enter. -/
theorem Inside.depth_le (h : call.Inside has 0 active) {keys : List String}
    (hkeys : ∀ key, has key → key ∈ keys) : call.depth ≤ keys.toFinset.card := by
  obtain ⟨entered, -, hdepth, hnodup, hentered⟩ := h
  have hsubset : entered.toFinset ⊆ keys.toFinset := fun key hkey =>
    List.mem_toFinset.mpr (hkeys key (hentered key (List.mem_toFinset.mp hkey)).2)
  calc call.depth = entered.length := by rw [hdepth, Nat.zero_add]
    _ = entered.toFinset.card := (List.toFinset_card_of_nodup hnodup).symm
    _ ≤ keys.toFinset.card := Finset.card_le_card hsubset

end Invocation

/-! ## Assembling returns -/

section Expand

variable {a : Assembly} {depth : Nat} {active : List String} {P : Invocation → Prop}

/-- What stands in a block before anything is put there. -/
def Node.own : Node → List Node
  | .block _ body => body
  | _ => []

/-- A block or slot is put into place as `place` has it, if contents are assembled and the body
of the block is. -/
theorem returns_runPlace (hcall : P ⟨depth, active⟩)
    (hcontent : ∀ key content, a.content? key = some content →
      Returns (a.runContent · depth key content) active (a.enter active key) P) (node : Node)
    {own : Unit → Except RenderError (List Node)}
    (hbody : ∀ key body, node = .block key body →
      Returns (a.runNodes · depth body) active (own ()) P) :
    Returns (a.runPlace · depth node) active (a.place (a.enter active) own node) P := by
  refine .of_succ rfl ?_
  match node with
  | .block key body =>
      simp only [Assembly.runPlace, Assembly.place]
      refine .called_bind hcall ?_
      cases hreplacement : a.replacements[key]? with
      | some content =>
          rw [if_pos (mem_of_getElem?_eq_some hreplacement)]
          refine (hcontent key content ?_).bind_pure _
          rw [Assembly.content?, hreplacement]
          rfl
      | none =>
          rw [if_neg (not_mem_of_getElem?_eq_none hreplacement)]
          exact (hbody key body rfl).bind_pure _
  | .slot key =>
      simp only [Assembly.runPlace, Assembly.place]
      refine .called_bind hcall ?_
      cases hkey : a.content? key with
      | some content => exact (hcontent key content hkey).bind_pure _
      | none =>
          rw [Assembly.enter_of_none hkey]
          exact returns_pure _
  | .raw _ | .var _ | .constant _ | .tag _ _ | .conditional _ | .loop _ _ _ | .extend _ _ =>
      simp only [Assembly.runPlace, Assembly.place]
      exact .called_bind hcall (returns_throw _)

mutual

theorem Node.returns_runNode (hcall : P ⟨depth, active⟩)
    (hcontent : ∀ key content, a.content? key = some content →
      Returns (a.runContent · depth key content) active (a.enter active key) P) (node : Node) :
    Returns (a.runNode · depth node) active (node.expand a (a.enter active)) P := by
  refine .of_succ rfl ?_
  match node with
  | .block key body =>
      simp only [Assembly.runNode, Node.expand]
      refine .called_bind hcall (returns_runPlace hcall hcontent _ ?_)
      rintro _ _ ⟨⟩
      exact returns_runNodes hcall hcontent body
  | .slot key =>
      simp only [Assembly.runNode, Node.expand]
      exact .called_bind hcall (returns_runPlace hcall hcontent _ nofun)
  | .tag name params =>
      simp only [Assembly.runNode, Node.expand]
      exact .called_bind hcall ((returns_runNodes hcall hcontent params).bind_pure _)
  | .loop item source body =>
      simp only [Assembly.runNode, Node.expand]
      exact .called_bind hcall ((returns_runNodes hcall hcontent body).bind_pure _)
  | .conditional chain =>
      simp only [Assembly.runNode, Node.expand]
      exact .called_bind hcall ((chain.returns_runChain hcall hcontent).bind_pure _)
  | .raw _ | .var _ | .constant _ | .extend _ _ =>
      simp only [Assembly.runNode, Node.expand]
      exact .called_bind hcall (returns_pure _)

theorem Chain.returns_runChain (hcall : P ⟨depth, active⟩)
    (hcontent : ∀ key content, a.content? key = some content →
      Returns (a.runContent · depth key content) active (a.enter active key) P) (chain : Chain) :
    Returns (a.runChain · depth chain) active (chain.expand a (a.enter active)) P := by
  refine .of_succ rfl ?_
  match chain with
  | .last condition body =>
      simp only [Assembly.runChain, Chain.expand]
      exact .called_bind hcall ((TemplateTree.returns_runNodes hcall hcontent body).bind_pure _)
  | .more condition body next =>
      simp only [Assembly.runChain, Chain.expand]
      refine .called_bind hcall ((next.returns_runChain hcall hcontent).bind fun _ _ => ?_)
      exact (TemplateTree.returns_runNodes hcall hcontent body).bind_pure _

/-- Nodes are assembled as `expand` has it, if contents are. -/
theorem returns_runNodes (hcall : P ⟨depth, active⟩)
    (hcontent : ∀ key content, a.content? key = some content →
      Returns (a.runContent · depth key content) active (a.enter active key) P)
    (nodes : List Node) :
    Returns (a.runNodes · depth nodes) active (expand a (a.enter active) nodes) P := by
  refine .of_succ rfl ?_
  match nodes with
  | [] =>
      simp only [Assembly.runNodes, expand]
      exact .called_bind hcall (returns_pure _)
  | node :: nodes =>
      simp only [Assembly.runNodes, expand]
      refine .called_bind hcall ((node.returns_runNode hcall hcontent).bind fun _ _ => ?_)
      exact (returns_runNodes hcall hcontent nodes).bind_pure _

end

end Expand

namespace Assembly

variable (a : Assembly) (depth : Nat) (active : List String)

/-- The calls made while contents are assembled. -/
def Inside : Invocation → Prop :=
  Invocation.Inside (fun key => (a.content? key).isSome) depth active

variable {a depth active}

theorem returns_runContent_of {key : String} {content : List Node}
    (hkey : a.content? key = some content)
    (hinner : key ∉ active → Returns (a.runNodes · (depth + 1) content) (key :: active)
      (a.resolve (key :: active) content) (a.Inside (depth + 1) (key :: active))) :
    Returns (a.runContent · depth key content) active (a.enter active key)
      (a.Inside depth active) := by
  refine .of_succ rfl ?_
  simp only [runContent]
  refine .called_bind Invocation.inside_self (.unlessActive (enter_of_mem hkey) fun hactive => ?_)
  rw [enter_of_not_mem hkey hactive]
  refine .under ((hinner hactive).imp fun call hcall => hcall.of_entered hactive ?_)
  rw [hkey]
  rfl

theorem returns_runNodes (a : Assembly) (depth : Nat) (active : List String)
    (nodes : List Node) :
    Returns (a.runNodes · depth nodes) active (a.resolve active nodes) (a.Inside depth active) := by
  induction active, nodes using resolve.induct (a := a) generalizing depth with
  | case1 active nodes ih =>
      rw [resolve_eq]
      refine TemplateTree.returns_runNodes Invocation.inside_self (fun key content hkey => ?_) nodes
      exact returns_runContent_of hkey fun hactive => ih key content hkey hactive (depth + 1)

theorem returns_runContent {key : String} {content : List Node}
    (hkey : a.content? key = some content) :
    Returns (a.runContent · depth key content) active (a.enter active key)
      (a.Inside depth active) :=
  returns_runContent_of hkey fun _ => returns_runNodes a (depth + 1) (key :: active) content

theorem returns_runNode (a : Assembly) (depth : Nat) (active : List String) (node : Node) :
    Returns (a.runNode · depth node) active (node.expand a (a.enter active))
      (a.Inside depth active) :=
  node.returns_runNode Invocation.inside_self fun _ _ hkey => returns_runContent hkey

/-- A node that is neither a block nor a slot fails here, with the stack as it was. -/
theorem returns_runPlace (a : Assembly) (depth : Nat) (active : List String) (node : Node) :
    Returns (a.runPlace · depth node) active
      (a.place (a.enter active) (fun _ => a.resolve active node.own) node)
      (a.Inside depth active) := by
  refine TemplateTree.returns_runPlace Invocation.inside_self
    (fun _ _ hkey => returns_runContent hkey) node ?_
  rintro _ body rfl
  exact returns_runNodes a depth active body

theorem returns_runChain (a : Assembly) (depth : Nat) (active : List String) (chain : Chain) :
    Returns (a.runChain · depth chain) active (chain.expand a (a.enter active))
      (a.Inside depth active) :=
  chain.returns_runChain Invocation.inside_self fun _ _ hkey => returns_runContent hkey

theorem mem_keys_iff {key : String} : key ∈ a.keys ↔ (a.content? key).isSome := by
  constructor
  · intro hkey
    rw [keys, List.mem_append, Std.ExtTreeMap.mem_keys, Std.ExtTreeMap.mem_keys] at hkey
    rw [content?, Option.orElse_eq_orElse, Option.orElse_eq_or, Option.isSome_or, Bool.or_eq_true]
    exact hkey.imp Std.ExtTreeMap.mem_iff_isSome_getElem?.mp
      Std.ExtTreeMap.mem_iff_isSome_getElem?.mp
  · intro hsome
    obtain ⟨content, hcontent⟩ := Option.isSome_iff_exists.mp hsome
    exact mem_keys_of_content? hcontent

/-- What is known of the calls when nothing is active at first. -/
theorem exists_calls (a : Assembly) (nodes : List Node) :
    ∃ calls least, (∀ limit, (a.runNodes limit 0 nodes).run.run ⟨[], []⟩
        = if least ≤ limit then some (a.resolve [] nodes, ⟨[], calls⟩) else none)
      ∧ ∀ call ∈ calls, call.active.Nodup ∧ (∀ key ∈ call.active, (a.content? key).isSome)
        ∧ call.depth = call.active.length ∧ call.depth ≤ a.keys.toFinset.card := by
  obtain ⟨calls, least, hrun, hinside⟩ := returns_runNodes a 0 [] nodes []
  rw [List.append_nil] at hrun
  refine ⟨calls, least, hrun, fun call hcall => ?_⟩
  have h := hinside call hcall
  exact ⟨h.nodup List.nodup_nil, fun key hkey => (h.mem_or hkey).resolve_left List.not_mem_nil,
    h.length_active.symm, h.depth_le fun key hkey => mem_keys_iff.mpr hkey⟩

end Assembly

/-! ## Following a chain returns -/

/-- What becomes of the template stored under a key, with this chain above it. -/
def inheritBase (store : Store) (chain : List String) (key : String) :
    Except RenderError Template :=
  if key ∈ chain then .error (.compositionCycle key)
  else match store[key]? with
    | none => .error (.templateNotFound key)
    | some base => (inherit store (key :: chain) base).result

namespace Store

variable {store : Store} {depth : Nat} {chain : List String}

theorem result_inherit_eq {nodes : Template} {key : String}
    {exports : List (String × List Node)} (h : extension? nodes = some (key, exports)) :
    (inherit store chain nodes).result
      = inheritBase store chain key >>= layer (supplied nodes exports) := by
  rw [inheritBase]
  by_cases hchain : key ∈ chain
  · rw [inherit_of_mem h hchain, if_pos hchain]
    rfl
  · rw [if_neg hchain]
    cases hbase : store[key]? with
    | none => rw [inherit_of_missing h hchain hbase]; rfl
    | some base => rw [inherit_of_base h hchain hbase]

/-- The calls made while a chain of templates is followed. -/
def Inside (store : Store) (depth : Nat) (chain : List String) : Invocation → Prop :=
  Invocation.Inside (· ∈ store) depth chain

theorem returns_runBase_of {key : String}
    (hinner : key ∉ chain → ∀ base, store[key]? = some base →
      Returns (store.runInherit · (depth + 1) base) (key :: chain)
        (inherit store (key :: chain) base).result (store.Inside (depth + 1) (key :: chain))) :
    Returns (store.runBase · depth key) chain (inheritBase store chain key)
      (store.Inside depth chain) := by
  refine .of_succ rfl ?_
  simp only [runBase, inheritBase]
  refine .called_bind Invocation.inside_self
    (.unlessActive (fun hchain => if_pos hchain) fun hchain => ?_)
  rw [if_neg hchain]
  cases hbase : store[key]? with
  | none => exact returns_throw _
  | some base =>
      exact .under ((hinner hchain base hbase).imp fun call hcall =>
        hcall.of_entered hchain (mem_of_getElem?_eq_some hbase))

theorem returns_runInherit_of {nodes : Template}
    (hbase : ∀ key exports, extension? nodes = some (key, exports) →
      Returns (store.runBase · depth key) chain (inheritBase store chain key)
        (store.Inside depth chain)) :
    Returns (store.runInherit · depth nodes) chain (inherit store chain nodes).result
      (store.Inside depth chain) := by
  refine .of_succ rfl ?_
  simp only [runInherit]
  refine .called_bind Invocation.inside_self ?_
  cases hextends : extension? nodes with
  | none =>
      rw [inherit_of_root hextends]
      exact returns_pure nodes
  | some extension =>
      obtain ⟨key, exports⟩ := extension
      rw [result_inherit_eq hextends]
      exact (hbase key exports hextends).bind fun base _ =>
        (Assembly.returns_runNodes _ 0 [] base).apart

theorem returns_runInherit (store : Store) (depth : Nat) (chain : List String)
    (nodes : Template) :
    Returns (store.runInherit · depth nodes) chain (inherit store chain nodes).result
      (store.Inside depth chain) := by
  induction chain, nodes using inherit.induct store generalizing depth with
  | case1 chain nodes hroot =>
      refine returns_runInherit_of fun key exports hextends => ?_
      rw [hroot] at hextends
      cases hextends
  | case2 chain nodes key exports hextends ih =>
      refine returns_runInherit_of fun key' exports' hextends' => ?_
      rw [hextends] at hextends'
      cases hextends'
      exact returns_runBase_of fun hchain base hbase => ih hchain base hbase (depth + 1)

theorem returns_runBase (store : Store) (depth : Nat) (chain : List String) (key : String) :
    Returns (store.runBase · depth key) chain (inheritBase store chain key)
      (store.Inside depth chain) :=
  returns_runBase_of fun _ base _ => returns_runInherit store (depth + 1) (key :: chain) base

/-- What is known of the calls when the chain has no key twice at first. -/
theorem exists_calls (store : Store) (nodes : Template) (hchain : chain.Nodup) :
    ∃ calls least, (∀ limit, (store.runInherit limit 0 nodes).run.run ⟨chain, []⟩
        = if least ≤ limit then some ((inherit store chain nodes).result, ⟨chain, calls⟩) else none)
      ∧ ∀ call ∈ calls, call.active.Nodup ∧ (∀ key ∈ call.active, key ∈ chain ∨ key ∈ store)
        ∧ call.active.length = call.depth + chain.length ∧ call.depth ≤ store.size := by
  obtain ⟨calls, least, hrun, hinside⟩ := returns_runInherit store 0 chain nodes []
  rw [List.append_nil] at hrun
  refine ⟨calls, least, hrun, fun call hcall => ?_⟩
  have h := hinside call hcall
  refine ⟨h.nodup hchain, fun key hkey => h.mem_or hkey, h.length_active, ?_⟩
  calc call.depth ≤ store.keys.toFinset.card :=
        h.depth_le fun key hkey => Std.ExtTreeMap.mem_keys.mpr hkey
    _ ≤ store.keys.length := List.toFinset_card_le store.keys
    _ = store.size := Std.ExtTreeMap.length_keys

end Store

/-- On one stack for all calls, contents are put in place and chains are followed to an end: once
calls may go deep enough, every procedure returns from any stack, whether well or not, with the
stack as it was and with what the recursive definition gives; with a lower limit it is broken off.
All calls made inside a call have the keys it found and above them one key for each content or
template that was entered, no key twice and none that cannot be entered. When nothing is active at
first, the active keys are distinct, have content and are as many as the contents around a call; so
these are never more than the keys with content. A chain that starts with distinct keys is treated
alike. -/
theorem stack_discipline :
    (∀ (a : Assembly) (depth : Nat) (active : List String),
        (∀ nodes, Returns (a.runNodes · depth nodes) active (a.resolve active nodes)
          (a.Inside depth active))
        ∧ (∀ node, Returns (a.runNode · depth node) active (node.expand a (a.enter active))
          (a.Inside depth active))
        ∧ (∀ node, Returns (a.runPlace · depth node) active
          (a.place (a.enter active) (fun _ => a.resolve active node.own) node)
          (a.Inside depth active))
        ∧ (∀ chain, Returns (a.runChain · depth chain) active (chain.expand a (a.enter active))
          (a.Inside depth active))
        ∧ ∀ key content, a.content? key = some content →
          Returns (a.runContent · depth key content) active (a.enter active key)
            (a.Inside depth active))
      ∧ (∀ (a : Assembly) (nodes : List Node), ∃ calls least,
        (∀ limit, (a.runNodes limit 0 nodes).run.run ⟨[], []⟩
          = if least ≤ limit then some (a.resolve [] nodes, ⟨[], calls⟩) else none)
        ∧ ∀ call ∈ calls, call.active.Nodup ∧ (∀ key ∈ call.active, (a.content? key).isSome)
          ∧ call.depth = call.active.length ∧ call.depth ≤ a.keys.toFinset.card)
      ∧ (∀ (a : Assembly) key, key ∈ a.keys.toFinset ↔ (a.content? key).isSome)
      ∧ (∀ (store : Store) (depth : Nat) (chain : List String),
        (∀ nodes, Returns (store.runInherit · depth nodes) chain
          (inherit store chain nodes).result (store.Inside depth chain))
        ∧ ∀ key, Returns (store.runBase · depth key) chain (inheritBase store chain key)
          (store.Inside depth chain))
      ∧ ∀ (store : Store) (chain : List String) (nodes : Template), chain.Nodup →
        ∃ calls least, (∀ limit, (store.runInherit limit 0 nodes).run.run ⟨chain, []⟩
          = if least ≤ limit then some ((inherit store chain nodes).result, ⟨chain, calls⟩)
            else none)
        ∧ ∀ call ∈ calls, call.active.Nodup ∧ (∀ key ∈ call.active, key ∈ chain ∨ key ∈ store)
          ∧ call.active.length = call.depth + chain.length ∧ call.depth ≤ store.size := by
  refine ⟨fun a depth active => ⟨a.returns_runNodes depth active, a.returns_runNode depth active,
      a.returns_runPlace depth active, a.returns_runChain depth active,
      fun key content => Assembly.returns_runContent⟩,
    Assembly.exists_calls, fun a key => ?_,
    fun store depth chain =>
      ⟨store.returns_runInherit depth chain, store.returns_runBase depth chain⟩,
    fun store chain nodes => store.exists_calls nodes⟩
  rw [List.mem_toFinset, Assembly.mem_keys_iff]

/-- Two blocks, each with a slot of the other. -/
def mutualBlocks : Template :=
  [.block "a" [.slot "b"], .block "b" [.loop "x" (.var "xs") [.slot "a"]]]

/-- Two templates, each built on the other. -/
def mutualTemplates : Store :=
  .ofList [("first", [Node.extend "second" []]), ("second", [Node.extend "first" []])]

/-- Both circles are found with all their keys on the stack, and both leave it as they found it. -/
theorem stack_discipline_mutual :
    (∃ calls least, (∀ limit ≥ least,
          ((Assembly.within mutualBlocks).runNodes limit 0 mutualBlocks).run.run ⟨[], []⟩
            = some (.error (.compositionCycle "b"), ⟨[], calls⟩))
        ∧ calls.head? = some ⟨2, ["a", "b"]⟩
        ∧ ∀ call ∈ calls, call.active.Nodup ∧ call.depth ≤ 2)
      ∧ ["first"].Nodup
      ∧ ∃ calls least, (∀ limit ≥ least,
          (mutualTemplates.runInherit limit 0 [.extend "second" []]).run.run ⟨["first"], []⟩
            = some (.error (.compositionCycle "first"), ⟨["first"], calls⟩))
        ∧ calls.head? = some ⟨1, ["second", "first"]⟩
        ∧ ∀ call ∈ calls, call.active.Nodup ∧ call.depth ≤ 2 := by
  have hblocks : (Assembly.within mutualBlocks).resolve [] mutualBlocks
      = .error (.compositionCycle "b") := by
    decide +kernel
  have hkeys : (Assembly.within mutualBlocks).keys.toFinset.card = 2 := by
    decide +kernel
  have htemplates : (inherit mutualTemplates ["first"] [.extend "second" []]).result
      = .error (.compositionCycle "first") := by
    decide +kernel
  have hsize : mutualTemplates.size = 2 := by
    decide +kernel
  obtain ⟨-, hassembling, -, -, hfollowing⟩ := stack_discipline
  refine ⟨?_, by decide, ?_⟩
  · obtain ⟨calls, least, hrun, hcalls⟩ := hassembling (Assembly.within mutualBlocks) mutualBlocks
    rw [hblocks] at hrun
    have hlast : (((Assembly.within mutualBlocks).runNodes 20 0 mutualBlocks).run.run ⟨[], []⟩).map
        (·.2.calls.head?) = some (some ⟨2, ["a", "b"]⟩) := by
      decide +kernel
    rw [hrun] at hlast
    refine ⟨calls, least, fun limit hlimit => (hrun limit).trans (if_pos hlimit), ?_,
      fun call hcall => ?_⟩
    · split at hlast
      · exact Option.some.inj hlast
      · cases hlast
    · obtain ⟨hnodup, -, -, hdepth⟩ := hcalls call hcall
      exact ⟨hnodup, hkeys ▸ hdepth⟩
  · obtain ⟨calls, least, hrun, hcalls⟩ :=
      hfollowing mutualTemplates ["first"] [.extend "second" []] (by decide)
    rw [htemplates] at hrun
    have hlast : ((mutualTemplates.runInherit 20 0 [.extend "second" []]).run.run
        ⟨["first"], []⟩).map (·.2.calls.head?) = some (some ⟨1, ["second", "first"]⟩) := by
      decide +kernel
    rw [hrun] at hlast
    refine ⟨calls, least, fun limit hlimit => (hrun limit).trans (if_pos hlimit), ?_,
      fun call hcall => ?_⟩
    · split at hlast
      · exact Option.some.inj hlast
      · cases hlast
    · obtain ⟨hnodup, -, -, hdepth⟩ := hcalls call hcall
      exact ⟨hnodup, hsize ▸ hdepth⟩

end TemplateTree
