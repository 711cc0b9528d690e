import TemplateTree.Proofs.DocumentOrder
import TemplateTree.Proofs.StoredTemplate

/-!
# What counts in a template that is built on another

Such a template may hold anything at its top level: text, further `extend` nodes, two
blocks of one key, blocks that its `extend` node brings content for already. `normalForm`
is the template with all of that left out, one `extend` node with what the template
supplies and nothing beside it. It has the same place in a chain as the template, whether
it is the first template of the chain or one that is fetched on the way, and so whether
one template in the store is replaced by it or many (`result_inherit_normalize`).

The content of the node is a list of pairs sorted by key. A later pair counts over an
earlier one when such a list is made, and the first block of a key counts over a later
one, so the blocks go into it from the last to the first and before the content that the
node has already.
-/

namespace TemplateTree

/-! ## Looking up pairs -/

section Pairs

variable {α : Type} {key : String}

theorem lookup_cons_eq (k : String) (a : α) (pairs : List (String × α)) :
    ((k, a) :: pairs).lookup key = if key = k then some a else pairs.lookup key := by
  rw [List.lookup_cons]
  by_cases h : key = k
  · rw [if_pos h, beq_iff_eq.mpr h]
  · rw [if_neg h, beq_false_of_ne h]

theorem lookup_insertSorted (other : String) (a : α) (pairs : List (String × α)) :
    (insertSorted other a pairs).lookup key = if key = other then some a else pairs.lookup key := by
  induction pairs with
  | nil => rw [insertSorted, lookup_cons_eq]
  | cons pair pairs ih =>
      obtain ⟨k, b⟩ := pair
      rw [insertSorted]
      split
      · rw [lookup_cons_eq]
      · next hlt =>
          split
          · next heq =>
              rw [lookup_cons_eq, lookup_cons_eq, heq]
              split
              · rfl
              · rfl
          · next hne =>
              rw [lookup_cons_eq, lookup_cons_eq, ih]
              by_cases hkey : key = k
              · rw [if_pos hkey, if_pos hkey, if_neg fun h => hne (h.symm.trans hkey)]
              · rw [if_neg hkey, if_neg hkey]

theorem lookup_foldl_insertSorted (pairs sorted : List (String × α)) :
    (pairs.foldl (fun sorted pair => insertSorted pair.1 pair.2 sorted) sorted).lookup key
      = (pairs.reverse.lookup key).or (sorted.lookup key) := by
  induction pairs generalizing sorted with
  | nil => rw [List.foldl_nil, List.reverse_nil, List.lookup_nil, Option.none_or]
  | cons pair pairs ih =>
      rw [List.foldl_cons, ih, lookup_insertSorted, List.reverse_cons, List.lookup_append,
        Option.or_assoc, lookup_cons_eq, List.lookup_nil]
      refine congrArg _ ?_
      split
      · rfl
      · rfl

/-- Of two pairs with one key the later counts. -/
theorem lookup_sortByKey (pairs : List (String × α)) :
    (sortByKey pairs).lookup key = pairs.reverse.lookup key := by
  rw [sortByKey, lookup_foldl_insertSorted, List.lookup_nil, Option.or_none]

theorem lookup_reverse_of_sorted {pairs : List (String × α)} (h : SortedByKey pairs) :
    pairs.reverse.lookup key = pairs.lookup key := by
  rw [← lookup_sortByKey, sortByKey_of_sorted h]

theorem getElem?_insertMany (pairs : List (String × α)) (map : Std.ExtTreeMap String α) :
    (map.insertMany pairs)[key]? = (pairs.reverse.lookup key).or map[key]? := by
  induction pairs generalizing map with
  | nil =>
      rw [Std.ExtTreeMap.insertMany_nil, List.reverse_nil, List.lookup_nil, Option.none_or]
  | cons pair pairs ih =>
      rw [Std.ExtTreeMap.insertMany_cons, ih, List.reverse_cons, List.lookup_append,
        Option.or_assoc, lookup_cons_eq, List.lookup_nil, Std.ExtTreeMap.getElem?_insert]
      refine congrArg _ ?_
      by_cases hkey : key = pair.1
      · rw [if_pos hkey, if_pos (Std.LawfulEqCmp.compare_eq_iff_eq.mpr hkey.symm)]
        rfl
      · rw [if_neg hkey, if_neg fun h => hkey (Std.LawfulEqCmp.eq_of_compare h).symm]
        rfl

theorem getElem?_ofList (pairs : List (String × α)) :
    (Std.ExtTreeMap.ofList pairs)[key]? = pairs.reverse.lookup key := by
  rw [Std.ExtTreeMap.ofList_eq_insertMany_empty, getElem?_insertMany,
    Std.ExtTreeMap.getElem?_empty, Option.or_none]

end Pairs

/-! ## The normal form -/

/-- The top-level blocks of a template, in order. -/
def topBlocks (nodes : Template) : List (String × List Node) :=
  nodes.filterMap fun
    | .block key body => some (key, body)
    | _ => none

/-- A template that is built on another as a single `extend` node: the content of its
first one and, for each other key, its first top-level block. -/
def normalForm (nodes : Template) : Template :=
  match extension? nodes with
  | none => nodes
  | some (key, exports) => [Node.extending key ((topBlocks nodes).reverse ++ exports)]

theorem supplied_eq (nodes : Template) (exports : List (String × List Node)) :
    supplied nodes exports = (Std.ExtTreeMap.ofList exports : Contents).addAll (topBlocks nodes) := by
  rw [supplied, Contents.addAll, topBlocks, List.foldl_filterMap]
  refine congrArg (List.foldl · _ nodes) ?_
  funext contents node
  cases node with
  | _ => rfl

theorem supplied_normalForm (nodes : Template) (exports : List (String × List Node)) :
    supplied [Node.extending key ((topBlocks nodes).reverse ++ exports)]
        (sortByKey ((topBlocks nodes).reverse ++ exports))
      = supplied nodes exports := by
  refine Std.ExtTreeMap.ext_getElem? fun k => ?_
  have hsorted := sortedByKey_sortByKey ((topBlocks nodes).reverse ++ exports)
  rw [supplied_eq, supplied_eq, getElem?_addAll, getElem?_addAll, getElem?_ofList,
    getElem?_ofList, lookup_reverse_of_sorted hsorted, lookup_sortByKey, List.reverse_append,
    List.reverse_reverse, List.lookup_append]
  exact Option.or_none

/-- A template and its normal form have the same place in a chain. -/
theorem result_inherit_normalForm (store : Store) (chain : List String) (nodes : Template) :
    (inherit store chain (normalForm nodes)).result = (inherit store chain nodes).result := by
  cases hextends : extension? nodes with
  | none => rw [normalForm, hextends]
  | some built =>
      have hnormal : extension? (normalForm nodes)
          = some (built.1, sortByKey ((topBlocks nodes).reverse ++ built.2)) := by
        rw [normalForm, hextends]
        rfl
      refine result_inherit_congr hnormal hextends ?_
      rw [normalForm, hextends]
      exact supplied_normalForm nodes built.2

/-! ## In the store -/

/-- The store with the normal form of each template whose key is chosen. -/
def Store.normalize (chosen : String → Bool) (store : Store) : Store :=
  store.map fun key nodes => if chosen key then normalForm nodes else nodes

section Normalize

variable {chosen : String → Bool} {store : Store}

theorem getElem?_normalize (key : String) :
    (store.normalize chosen)[key]?
      = store[key]?.map fun nodes => if chosen key then normalForm nodes else nodes := by
  rw [Store.normalize, Std.ExtTreeMap.getElem?_map]

theorem result_inherit_normalize (chain : List String) (nodes : Template) :
    (inherit (store.normalize chosen) chain nodes).result = (inherit store chain nodes).result := by
  induction chain, nodes using inherit.induct store with
  | case1 chain nodes hroot => rw [inherit_of_root hroot, inherit_of_root hroot]
  | case2 chain nodes key exports hextends ih =>
      by_cases hchain : key ∈ chain
      · rw [inherit_of_mem hextends hchain, inherit_of_mem hextends hchain]
      · have hlookup := @getElem?_normalize chosen store key
        cases hbase : store[key]? with
        | none =>
            rw [hbase, Option.map_none] at hlookup
            rw [inherit_of_missing hextends hchain hlookup, inherit_of_missing hextends hchain hbase]
        | some base =>
            rw [hbase, Option.map_some] at hlookup
            rw [inherit_of_base hextends hchain hlookup, inherit_of_base hextends hchain hbase,
              ← ih hchain base hbase]
            split
            · rw [result_inherit_normalForm]
            · rfl

theorem result_compose_normalize (chain : List String) (nodes : Template) :
    (compose (store.normalize chosen) chain nodes).result = (compose store chain nodes).result := by
  rw [compose_eq, compose_eq, result_inherit_normalize]

theorem result_compose_normalForm (chain : List String) (nodes : Template) :
    (compose store chain (normalForm nodes)).result = (compose store chain nodes).result := by
  rw [compose_eq, compose_eq, result_inherit_normalForm]

end Normalize

/-- A call has the same outcome, text or failure, when the template that is rendered and
any of the templates in the store are replaced by their normal forms. -/
theorem render_normalForm (tags : Registry) (store : Store) (chosen : String → Bool)
    (context : Context) :
    (∀ chain nodes,
        (tags.renderFrom (store.normalize chosen) chain context nodes).result
          = (tags.renderFrom store chain context nodes).result
        ∧ (tags.renderFrom (store.normalize chosen) chain context (normalForm nodes)).result
          = (tags.renderFrom store chain context nodes).result)
      ∧ (∀ nodes,
        (tags.render (store.normalize chosen) context (normalForm nodes)).result
          = (tags.render store context nodes).result)
      ∧ ∀ key, (tags.renderNamed (store.normalize chosen) context key).result
          = (tags.renderNamed store context key).result := by
  have hnodes : ∀ chain nodes, (tags.renderFrom (store.normalize chosen) chain context nodes).result
      = (tags.renderFrom store chain context nodes).result := by
    intro chain nodes
    rw [result_renderFrom, result_renderFrom, result_compose_normalize]
  have hnormal : ∀ chain nodes,
      (tags.renderFrom (store.normalize chosen) chain context (normalForm nodes)).result
        = (tags.renderFrom store chain context nodes).result := by
    intro chain nodes
    rw [hnodes, result_renderFrom, result_renderFrom, result_compose_normalForm]
  refine ⟨fun chain nodes => ⟨hnodes chain nodes, hnormal chain nodes⟩, hnormal [],
    fun key => ?_⟩
  have hlookup := @getElem?_normalize chosen store key
  rw [Registry.renderNamed, Registry.renderNamed, hlookup]
  cases store[key]? with
  | none => rfl
  | some nodes =>
      show (tags.renderFrom (store.normalize chosen) [key] context
        (if chosen key then normalForm nodes else nodes)).result = _
      split
      · exact hnormal [key] nodes
      · exact hnodes [key] nodes

example : normalForm [.raw "lost", .block "a" [.raw "1"], .extend "base" [("b", [.raw "2"])],
      .block "a" [.raw "3"], .block "b" [.raw "4"], .extend "other" []]
    = [.extend "base" [("a", [.raw "1"]), ("b", [.raw "2"])]] := by
  decide +kernel

end TemplateTree
