import TemplateTree.Render
import TemplateTree.Proofs.Hollow

/-!
# Content that has been overridden

Once a template supplies a block, what the templates under it hold for that block is
of no account: not their defaults, not what they supply themselves, wherever it may
have been copied to on the way. `Redefined` is the change that cannot be noticed, one
plain body of a block of the key exchanged for another, in a tree, in a template or
in a store.

The proof runs the chain on hollow trees. Such a change is one between trees that are
hollow alike (`Store.Redefined.hollow_eq`); the walk down the chain does not depend
on what the bodies are, and each layer on the way back makes of hollow trees the
hollow tree (`inherit_hollow`). So what comes up to the last layer is hollow alike,
and that layer, which supplies the key, makes of it one and the same tree.
-/

namespace TemplateTree

/-! ## Changes that cannot be noticed -/

mutual

/-- The second node is the first with another plain body in one block of `key`. -/
inductive Node.Redefined (key : String) : Node → Node → Prop where
  | body {old new : List Node} (hold : hasBlocks old = false) (hnew : hasBlocks new = false) :
      Node.Redefined key (.block key old) (.block key new)
  | block (k : String) {old new : List Node} (h : Redefined key old new) :
      Node.Redefined key (.block k old) (.block k new)
  | tag (name : String) {old new : List Node} (h : Redefined key old new) :
      Node.Redefined key (.tag name old) (.tag name new)
  | loop (item : String) (source : Node) {old new : List Node} (h : Redefined key old new) :
      Node.Redefined key (.loop item source old) (.loop item source new)
  | conditional {old new : Chain} (h : Chain.Redefined key old new) :
      Node.Redefined key (.conditional old) (.conditional new)

inductive Chain.Redefined (key : String) : Chain → Chain → Prop where
  | last (condition : Node) {old new : List Node} (h : Redefined key old new) :
      Chain.Redefined key (.last condition old) (.last condition new)
  | arm (condition : Node) (next : Chain) {old new : List Node} (h : Redefined key old new) :
      Chain.Redefined key (.more condition old next) (.more condition new next)
  | next (condition : Node) (body : List Node) {old new : Chain}
      (h : Chain.Redefined key old new) :
      Chain.Redefined key (.more condition body old) (.more condition body new)

inductive Redefined (key : String) : List Node → List Node → Prop where
  | intro (before after : List Node) {old new : Node} (h : Node.Redefined key old new) :
      Redefined key (before ++ old :: after) (before ++ new :: after)

end

/-- The second template is the first with another plain body for `key`, in a block at
a place that can be rendered, or in content that it supplies or as such content. -/
inductive Template.Redefined (key : String) : Template → Template → Prop where
  | tree {old new : List Node} (h : TemplateTree.Redefined key old new) :
      Template.Redefined key old new
  | content (before after : List Node) (base k : String) (first rest : List (String × List Node))
      {old new : List Node}
      (h : TemplateTree.Redefined key old new
        ∨ (k = key ∧ hasBlocks old = false ∧ hasBlocks new = false)) :
      Template.Redefined key (before ++ .extend base (first ++ (k, old) :: rest) :: after)
        (before ++ .extend base (first ++ (k, new) :: rest) :: after)

/-- The second store holds one template with another plain body for `key`. -/
inductive Store.Redefined (key : String) : Store → Store → Prop where
  | intro (store : Store) (name : String) {old new : Template} (hstored : store[name]? = some old)
      (h : Template.Redefined key old new) : Store.Redefined key store (store.insert name new)

/-! ## Hollow templates -/

/-- The node with everything in it hollow, what it supplies included. -/
def Node.hollow (key : String) : Node → Node
  | .extend base exports => .extend base (hollowBlocks key exports)
  | .block k body => .block k (emptied key k (TemplateTree.hollow key body))
  | .tag name params => .tag name (TemplateTree.hollow key params)
  | .loop item source body => .loop item source (TemplateTree.hollow key body)
  | .conditional chain => .conditional (chain.hollow key)
  | .raw text => .raw text
  | .var name => .var name
  | .constant value => .constant value
  | .slot k => .slot k

def Template.hollow (key : String) (nodes : Template) : Template :=
  nodes.map (Node.hollow key)

def Store.hollow (key : String) (store : Store) : Store :=
  store.map fun _ => Template.hollow key

theorem Store.getElem?_hollow (key : String) (store : Store) (name : String) :
    (store.hollow key)[name]? = store[name]?.map (Template.hollow key) :=
  Std.ExtTreeMap.getElem?_map

section Hollow

variable {key : String}

theorem Node.kind_hollow (node : Node) : (node.hollow key).kind = node.kind := by
  cases node with
  | _ => rfl

theorem hollow_singleton {node : Node} (h : node.kind ≠ .extend) :
    hollow key [node] = [node.hollow key] := by
  cases node with
  | extend _ _ => exact absurd rfl h
  | block k body => rw [hollow_block, Node.hollow]
  | tag name params => rw [hollow_tag, Node.hollow]
  | loop item source body => rw [hollow_loop, Node.hollow]
  | conditional chain => rw [hollow_conditional, Node.hollow]
  | _ => rw [hollow, graft_singleton, Node.graft, Node.hollow]

theorem extension?_hollow (nodes : Template) :
    extension? (Template.hollow key nodes)
      = (extension? nodes).map fun built => (built.1, hollowBlocks key built.2) := by
  induction nodes with
  | nil => rfl
  | cons node nodes ih =>
      cases node with
      | extend base exports => rfl
      | _ => exact ih

/-- A template that is built on none supplies nothing, and is hollow as a tree. -/
theorem Template.hollow_of_root {nodes : Template} (h : extension? nodes = none) :
    Template.hollow key nodes = TemplateTree.hollow key nodes := by
  rw [extension?_eq_none_iff] at h
  induction nodes with
  | nil => rw [hollow_nil]; rfl
  | cons node nodes ih =>
      rw [List.forall_mem_cons] at h
      rw [← List.singleton_append, hollow_append, hollow_singleton h.1, ← ih h.2]
      rfl

theorem extendKeys_hollow (nodes : Template) :
    extendKeys (Template.hollow key nodes) = extendKeys nodes := by
  induction nodes with
  | nil => rfl
  | cons node nodes ih =>
      cases node with
      | extend base exports => exact congrArg (base :: ·) ih
      | _ => exact ih

theorem passedOver_hollow (base : String) (nodes : Template) :
    passedOver base (Template.hollow key nodes) = passedOver base nodes := by
  rw [passedOver, passedOver, extendKeys_hollow, Template.hollow, List.filterMap_map]
  simp only [Function.comp_def, Node.kind_hollow]

theorem Contents.hollow_insert (contents : Contents) (k : String) (body : List Node) :
    Contents.hollow key (contents.insert k body)
      = (contents.hollow key).insert k (emptied key k (TemplateTree.hollow key body)) := by
  refine Std.ExtTreeMap.ext_getElem? fun other => ?_
  rw [getElem?_hollow, Std.ExtTreeMap.getElem?_insert, Std.ExtTreeMap.getElem?_insert,
    getElem?_hollow]
  by_cases h : compare k other = .eq
  · obtain rfl := Std.LawfulEqCmp.eq_of_compare h
    rw [if_pos h, if_pos h]
    rfl
  · rw [if_neg h, if_neg h]

theorem Contents.hollow_insertIfNew (contents : Contents) (k : String) (body : List Node) :
    Contents.hollow key (contents.insertIfNew k body)
      = (contents.hollow key).insertIfNew k (emptied key k (TemplateTree.hollow key body)) := by
  refine Std.ExtTreeMap.ext_getElem? fun other => ?_
  rw [getElem?_hollow, Std.ExtTreeMap.getElem?_insertIfNew, Std.ExtTreeMap.getElem?_insertIfNew,
    getElem?_hollow]
  simp only [mem_hollow]
  by_cases h : compare k other = .eq ∧ k ∉ contents
  · obtain rfl := Std.LawfulEqCmp.eq_of_compare h.1
    rw [if_pos h, if_pos h]
    rfl
  · rw [if_neg h, if_neg h]

theorem ofList_hollowBlocks (exports : List (String × List Node)) :
    Std.ExtTreeMap.ofList (hollowBlocks key exports)
      = Contents.hollow key (Std.ExtTreeMap.ofList exports) := by
  have hinsert : ∀ contents : Contents, (contents.hollow key).insertMany (hollowBlocks key exports)
      = Contents.hollow key (contents.insertMany exports) := by
    induction exports with
    | nil => exact fun contents => rfl
    | cons block exports ih =>
        intro contents
        rw [hollowBlocks, List.map_cons, ← hollowBlocks, Std.ExtTreeMap.insertMany_cons,
          Std.ExtTreeMap.insertMany_cons, ← Contents.hollow_insert]
        exact ih _
  rw [Std.ExtTreeMap.ofList_eq_insertMany_empty, Std.ExtTreeMap.ofList_eq_insertMany_empty,
    ← hinsert]
  congr 1

theorem supplied_hollow (nodes : Template) (exports : List (String × List Node)) :
    supplied (Template.hollow key nodes) (hollowBlocks key exports)
      = (supplied nodes exports).hollow key := by
  rw [supplied, supplied, ofList_hollowBlocks]
  generalize Std.ExtTreeMap.ofList exports = contents
  induction nodes generalizing contents with
  | nil => rfl
  | cons node nodes ih =>
      cases node with
      | block k body =>
          rw [List.foldl_cons, ← ih, Contents.hollow_insertIfNew]
          rfl
      | _ => exact ih contents

end Hollow

section Redefined

variable {key : String}

/-- Of a plain body of the key nothing is left. -/
theorem emptied_hollow_eq_nil {body : List Node} (h : hasBlocks body = false) :
    emptied key key (hollow key body) = [] := by
  rw [hollow_of_hasBlocks h, emptied, if_pos ⟨rfl, h⟩]

theorem Node.Redefined.kind_ne {old new : Node} (h : Node.Redefined key old new) :
    old.kind ≠ .extend ∧ new.kind ≠ .extend := by
  cases h with
  | _ => exact ⟨nofun, nofun⟩

mutual

theorem Node.Redefined.hollow_eq {old new : Node} (h : Node.Redefined key old new) :
    old.hollow key = new.hollow key := by
  match h with
  | .body hold hnew => rw [Node.hollow, Node.hollow, emptied_hollow_eq_nil hold,
      emptied_hollow_eq_nil hnew]
  | .block k h => rw [Node.hollow, Node.hollow, h.hollow_eq]
  | .tag name h => rw [Node.hollow, Node.hollow, h.hollow_eq]
  | .loop item source h => rw [Node.hollow, Node.hollow, h.hollow_eq]
  | .conditional h => rw [Node.hollow, Node.hollow, h.hollow_eq]

theorem Chain.Redefined.hollow_eq {old new : Chain} (h : Chain.Redefined key old new) :
    old.hollow key = new.hollow key := by
  match h with
  | .last condition h => rw [Chain.hollow_last, Chain.hollow_last, h.hollow_eq]
  | .arm condition next h => rw [Chain.hollow_more, Chain.hollow_more, h.hollow_eq]
  | .next condition body h => rw [Chain.hollow_more, Chain.hollow_more, h.hollow_eq]

theorem Redefined.hollow_eq {old new : List Node} (h : Redefined key old new) :
    hollow key old = hollow key new := by
  match h with
  | .intro before after h =>
      rw [hollow_append, hollow_append, ← List.singleton_append, hollow_append,
        hollow_singleton h.kind_ne.1, h.hollow_eq, ← hollow_singleton h.kind_ne.2, ← hollow_append,
        List.singleton_append]

end

theorem Template.Redefined.hollow_eq {old new : Template} (h : Template.Redefined key old new) :
    Template.hollow key old = Template.hollow key new := by
  cases h with
  | tree h =>
      cases h with
      | intro before after h =>
          rw [Template.hollow, Template.hollow, List.map_append, List.map_append, List.map_cons,
            List.map_cons, h.hollow_eq]
  | @content before after base k first rest old new h =>
      have hbody : emptied key k (TemplateTree.hollow key old)
          = emptied key k (TemplateTree.hollow key new) := by
        rcases h with h | ⟨rfl, hold, hnew⟩
        · rw [h.hollow_eq]
        · rw [emptied_hollow_eq_nil hold, emptied_hollow_eq_nil hnew]
      have hblocks : hollowBlocks key (first ++ (k, old) :: rest)
          = hollowBlocks key (first ++ (k, new) :: rest) := by
        rw [hollowBlocks, hollowBlocks, List.map_append, List.map_append, List.map_cons,
          List.map_cons, hbody]
      rw [Template.hollow, Template.hollow, List.map_append, List.map_append, List.map_cons,
        List.map_cons, Node.hollow, Node.hollow, hblocks]

theorem Store.Redefined.hollow_eq {old new : Store} (h : Store.Redefined key old new) :
    old.hollow key = new.hollow key := by
  cases h with
  | @intro name template template' hstored h =>
      refine Std.ExtTreeMap.ext_getElem? fun other => ?_
      rw [Store.getElem?_hollow, Store.getElem?_hollow, Std.ExtTreeMap.getElem?_insert]
      by_cases hother : compare name other = .eq
      · obtain rfl := Std.LawfulEqCmp.eq_of_compare hother
        rw [if_pos hother, hstored, Option.map_some, Option.map_some, h.hollow_eq]
      · rw [if_neg hother]

end Redefined

/-! ## Building on hollow templates -/

/-- The chain of hollow templates ends as the chain does, and with the hollow tree. -/
theorem inherit_hollow (key : String) (store : Store) (chain : List String) (nodes : Template) :
    inherit (store.hollow key) chain (Template.hollow key nodes)
      = ⟨(inherit store chain nodes).records,
          (inherit store chain nodes).result.map (hollow key)⟩ := by
  induction chain, nodes using inherit.induct store with
  | case1 chain nodes hroot =>
      have hhollow : extension? (Template.hollow key nodes) = none := by
        rw [extension?_hollow, hroot, Option.map_none]
      rw [inherit_of_root hroot, inherit_of_root hhollow, Template.hollow_of_root hroot]
      rfl
  | case2 chain nodes name exports hextends ih =>
      have hhollow : extension? (Template.hollow key nodes)
          = some (name, hollowBlocks key exports) := by
        rw [extension?_hollow, hextends, Option.map_some]
      have hlookup := Store.getElem?_hollow key store name
      by_cases hchain : name ∈ chain
      · rw [inherit_of_mem hextends hchain, inherit_of_mem hhollow hchain, passedOver_hollow]
        rfl
      · cases hbase : store[name]? with
        | none =>
            rw [hbase, Option.map_none] at hlookup
            rw [inherit_of_missing hextends hchain hbase,
              inherit_of_missing hhollow hchain hlookup, passedOver_hollow]
            rfl
        | some base =>
            rw [hbase, Option.map_some] at hlookup
            rw [inherit_of_base hextends hchain hbase, inherit_of_base hhollow hchain hlookup,
              passedOver_hollow, ih hchain base hbase, supplied_hollow]
            cases (inherit store (name :: chain) base).result with
            | error e => rfl
            | ok merged => exact congrArg _ (map_hollow_layer key _ merged).symm

/-! ## What stands in the blocks of a key -/

namespace Assembly

variable {a : Assembly} {key : String} {nodes out : List Node}

/-- Every block of a key that is replaced holds the replacement, resolved. -/
theorem resolve_content_of_within {content : List Node} (hmarking : a.marking = .keep)
    (hcontent : a.replacements[key]? = some content) {active : List String}
    (h : a.resolve active nodes = .ok out) {body : List Node}
    (hbody : Within (.block key body) out) : a.resolve [key] content = .ok body := by
  have hreplaced : key ∈ a.replacements := mem_of_getElem?_eq_some hcontent
  have hkey : a.content? key = some content := by
    rw [content?, hcontent]
    rfl
  suffices hholds : ∀ n, Within n out →
      ∀ body, n = .block key body → a.resolve [key] content = .ok body from
    hholds _ hbody body rfl
  clear hbody
  induction active, nodes using resolve.induct (a := a) generalizing out with
  | case1 active nodes ih =>
      rw [resolve_eq, expand_eq_ok_iff] at h
      obtain ⟨hok, rfl⟩ := h
      refine forall_within_fill (fun n hfixed body hn => ?_) (fun k inner hk hinner => ?_)
        fun k hk => ?_
      · exact absurd (congrArg Node.kind hn) hfixed.1
      · rw [hmarking, Marking.wrap, forall_within_singleton]
        refine ⟨fun body hn => ?_, fun part hpart => ?_⟩
        · cases hn
          exact absurd hreplaced hk
        · obtain rfl := List.mem_singleton.mp hpart
          exact hinner
      · rw [hmarking, Marking.wrap, forall_within_singleton]
        refine ⟨fun body hn => ?_, fun part hpart => ?_⟩
        · cases hn
          obtain ⟨-, hresolve⟩ := resolve_of_failure?_enter hkey (hok key hk)
          exact resolve_of_subset hresolve fun _ hmem =>
            List.mem_singleton.mp hmem ▸ List.mem_cons_self
        · obtain rfl := List.mem_singleton.mp hpart
          cases hinner : a.content? k with
          | none =>
              rw [enter_of_none hinner, contentOf]
              exact fun _ hn => absurd hn Within.not_nil
          | some inner =>
              obtain ⟨hactive, hresolve⟩ := resolve_of_failure?_enter hinner (hok k hk)
              exact ih k inner hinner hactive hresolve

end Assembly

/-! ## Rendering -/

section Render

variable {store store' : Store} {chain : List String} {nodes : Template} {base key : String}
  {exports : List (String × List Node)}

/-- Stores that are hollow alike make no difference to a template that supplies the
key. -/
theorem inherit_eq_of_hollow_eq (hextends : extension? nodes = some (base, exports))
    (hkey : key ∈ supplied nodes exports) (halike : store.hollow key = store'.hollow key) :
    inherit store chain nodes = inherit store' chain nodes := by
  have hlookup : store[base]?.map (Template.hollow key)
      = store'[base]?.map (Template.hollow key) := by
    rw [← Store.getElem?_hollow, ← Store.getElem?_hollow, halike]
  by_cases hchain : base ∈ chain
  · rw [inherit_of_mem hextends hchain, inherit_of_mem hextends hchain]
  · cases hstored : store[base]? with
    | none =>
        rw [hstored, Option.map_none, eq_comm, Option.map_eq_none_iff] at hlookup
        rw [inherit_of_missing hextends hchain hstored, inherit_of_missing hextends hchain hlookup]
    | some stored =>
        rw [hstored, Option.map_some, eq_comm, Option.map_eq_some_iff] at hlookup
        obtain ⟨stored', hstored', htemplate⟩ := hlookup
        have hbelow := inherit_hollow key store (base :: chain) stored
        rw [halike, ← htemplate, inherit_hollow, Traced.mk.injEq] at hbelow
        obtain ⟨hrecords, hresult⟩ := hbelow
        rw [inherit_of_base hextends hchain hstored, inherit_of_base hextends hchain hstored',
          hrecords]
        have hlayer : ∀ lower : Except RenderError (List Node),
            lower >>= layer (supplied nodes exports)
              = lower.map (hollow key) >>= layer (supplied nodes exports) := by
          intro lower
          cases lower with
          | error e => rfl
          | ok lower => exact (layer_hollow hkey lower).symm
        rw [hlayer, ← hresult, ← hlayer]

theorem renderFrom_eq_of_inherit_eq (tags : Registry) (context : Context)
    (h : inherit store chain nodes = inherit store' chain nodes) :
    tags.renderFrom store chain context nodes = tags.renderFrom store' chain context nodes := by
  rw [Registry.renderFrom, Registry.renderFrom, compose_eq, compose_eq, h]

theorem Store.hollow_eq_of_reflTransGen
    (h : Relation.ReflTransGen (Store.Redefined key) store store') :
    store.hollow key = store'.hollow key := by
  induction h with
  | refl => rfl
  | tail _ hstep ih => rw [ih, hstep.hollow_eq]

/-- What a template supplies for a key makes irrelevant what the templates under it
hold for that key: with other plain bodies there, the call goes as before, to the last
record. In the tree that is put together, every block of the key holds the same body,
whichever block or slot it came from. -/
theorem render_of_redefined (tags : Registry) (store : Store) (chain : List String)
    (context : Context) (nodes : Template)
    (hextends : extension? nodes = some (base, exports)) (hkey : key ∈ supplied nodes exports) :
    (∀ store', Relation.ReflTransGen (Store.Redefined key) store store' →
        tags.renderFrom store chain context nodes = tags.renderFrom store' chain context nodes
        ∧ ∀ name, store[name]? = some nodes → store'[name]? = some nodes →
          tags.renderNamed store context name = tags.renderNamed store' context name)
      ∧ ∃ content, (supplied nodes exports)[key]? = some content
        ∧ ∀ merged, (inherit store chain nodes).result = .ok merged →
          ∃ stored lower, store[base]? = some stored
            ∧ (inherit store (base :: chain) stored).result = .ok lower
            ∧ ∀ body, Within (.block key body) merged →
              (Assembly.onto (supplied nodes exports) lower).resolve [key] content = .ok body := by
  refine ⟨fun store' hredefined => ?_, ?_⟩
  · have halike := Store.hollow_eq_of_reflTransGen hredefined
    have hcall : ∀ chain, tags.renderFrom store chain context nodes
        = tags.renderFrom store' chain context nodes := fun chain =>
      renderFrom_eq_of_inherit_eq tags context (inherit_eq_of_hollow_eq hextends hkey halike)
    refine ⟨hcall chain, fun name hstored hstored' => ?_⟩
    rw [Registry.renderNamed, Registry.renderNamed, hstored, hstored']
    exact hcall [name]
  · obtain ⟨content, hcontent⟩ := mem_iff_getElem?_eq_some.mp hkey
    refine ⟨content, hcontent, fun merged hmerged => ?_⟩
    by_cases hchain : base ∈ chain
    · rw [inherit_of_mem hextends hchain] at hmerged
      cases hmerged
    · cases hstored : store[base]? with
      | none =>
          rw [inherit_of_missing hextends hchain hstored] at hmerged
          cases hmerged
      | some stored =>
          rw [inherit_of_base hextends hchain hstored] at hmerged
          obtain ⟨lower, hlower, hlayer⟩ := bind_eq_ok_iff.mp hmerged
          exact ⟨stored, lower, rfl, hlower, fun body hbody =>
            Assembly.resolve_content_of_within rfl hcontent hlayer hbody⟩

end Render

/-- A frame around a text, and a page that wraps the text once more and has a text of
its own. -/
def frame (text : List Node) : Template :=
  [.block "wrap" [], .tag "get" [.block "text" text]]

def framed (text : List Node) : Template :=
  [.extend "frame" [("text", text), ("wrap", [.raw "<", .slot "text", .raw ">"])]]

def framedStore : Store :=
  .ofList [("frame", frame [.var "undefined"]), ("framed", framed [.raw "old"])]

/-- Neither text is seen under a template that brings one, not even the one that
could not have been rendered. -/
theorem render_of_redefined_framed :
    "text" ∈ supplied [.extend "framed" [("text", [.raw "new"])]] [("text", [.raw "new"])]
      ∧ (Registry.builtin.renderFrom framedStore [] ∅
          [.extend "framed" [("text", [.raw "new"])]]).result = .ok "<new>new"
      ∧ (Registry.builtin.renderFrom
          ((framedStore.insert "frame" (frame [])).insert "framed" (framed [.raw "other"])) [] ∅
          [.extend "framed" [("text", [.raw "new"])]]).result = .ok "<new>new" := by
  have hkey : "text" ∈ supplied [.extend "framed" [("text", [.raw "new"])]]
      [("text", [.raw "new"])] := by
    decide +kernel
  have hresult : (Registry.builtin.renderFrom framedStore [] ∅
      [.extend "framed" [("text", [.raw "new"])]]).result = .ok "<new>new" := by
    decide +kernel
  have hframe : Template.Redefined "text" (frame [.var "undefined"]) (frame []) :=
    .tree (.intro [.block "wrap" []] [] (.tag "get" (.intro [] [] (.body rfl rfl))))
  have hframed : Template.Redefined "text" (framed [.raw "old"]) (framed [.raw "other"]) :=
    .content [] [] "frame" "text" [] _ (.inr ⟨rfl, rfl, rfl⟩)
  have hfirst : Store.Redefined "text" framedStore (framedStore.insert "frame" (frame [])) :=
    .intro framedStore "frame" (by decide +kernel) hframe
  have hsecond : Store.Redefined "text" (framedStore.insert "frame" (frame []))
      ((framedStore.insert "frame" (frame [])).insert "framed" (framed [.raw "other"])) :=
    .intro _ "framed" (by decide +kernel) hframed
  have hredefined := (Relation.ReflTransGen.single hfirst).tail hsecond
  refine ⟨hkey, hresult, ?_⟩
  rw [← ((render_of_redefined Registry.builtin framedStore [] ∅
    [.extend "framed" [("text", [.raw "new"])]] rfl hkey).1 _ hredefined).1]
  exact hresult

end TemplateTree
