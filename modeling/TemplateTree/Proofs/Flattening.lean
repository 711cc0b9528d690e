import TemplateTree.Proofs.Unresolved
import TemplateTree.Proofs.DocumentOrder

/-!
# Trees without blocks

Whether a tree has blocks, which blocks it has, what becomes of it and where it is rendered are
four walks over the same places. So a tree in which no block and no slot is found has no content
to offer, and any assembly leaves it as it is: to take its blocks away is nothing to do, which
is why `flatten` may leave it out.

Such a tree is also what comes out when blocks are taken away, whatever content goes into the
slots. Trees without blocks are therefore exactly the trees that stay as they are, and to take
the blocks away a second time changes nothing.
-/

namespace TemplateTree

variable {nodes flat : List Node}

theorem mem_firstBlocks_iff {key : String} :
    key ∈ firstBlocks nodes ↔ ∃ body, Within (.block key body) nodes := by
  rw [mem_iff_getElem?_eq_some]
  constructor
  · rintro ⟨body, hbody⟩
    exact ⟨body, within_of_firstBlocks hbody⟩
  · rintro ⟨body, hbody⟩
    rw [← Option.isSome_iff_exists, getElem?_firstBlocks, List.lookup_isSome_iff]
    exact ⟨(key, body), (mem_blocks_iff nodes).mpr hbody, beq_self_eq_true key⟩

theorem hasBlocks_of_mem_firstBlocks {key : String} (h : key ∈ firstBlocks nodes) :
    hasBlocks nodes = true := by
  obtain ⟨body, hbody⟩ := mem_firstBlocks_iff.mp h
  rw [← Bool.not_eq_false, hasBlocks_eq_false_iff]
  exact fun hfixed => (hfixed _ hbody).1 rfl

theorem firstBlocks_of_hasBlocks (h : hasBlocks nodes = false) : firstBlocks nodes = ∅ := by
  rw [Std.ExtTreeMap.eq_empty_iff_forall_not_mem]
  intro key hkey
  rw [hasBlocks_of_mem_firstBlocks hkey] at h
  cases h

namespace Assembly

variable {a : Assembly} {active : List String}

/-- No block is left where content stands on its own. -/
theorem hasBlocks_of_resolve_splice (hmarking : a.marking = .splice)
    (h : a.resolve active nodes = .ok flat) : hasBlocks flat = false :=
  (hasBlocks_eq_false_iff flat).mpr (fixed_of_resolve hmarking h)

theorem resolve_eq_self_iff (hmarking : a.marking = .splice) :
    a.resolve active nodes = .ok nodes ↔ hasBlocks nodes = false :=
  ⟨hasBlocks_of_resolve_splice hmarking, resolve_of_hasBlocks⟩

end Assembly

section Compose

variable {store : Store} {keys : List String} {out : Template}

theorem result_compose_eq (store : Store) (keys : List String) (nodes : Template) :
    (compose store keys nodes).result
      = (inherit store keys nodes).result
        >>= fun merged => (Assembly.within merged).resolve [] merged := by
  rw [compose_eq]
  exact bind_congr fun merged => Assembly.flatten_eq_resolve merged

theorem hasBlocks_of_compose (h : (compose store keys nodes).result = .ok out) :
    hasBlocks out = false :=
  (hasBlocks_eq_false_iff out).mpr (fixed_of_compose h)

end Compose

/-- Where no block and no slot is found, no content is found either, and no assembly changes
anything, whatever is put in place and whatever is active; and a key that is found is a block.
So it is the same tree that comes out whether `flatten` looks for blocks first or not. What
comes out of taking the blocks away has none, and only such a tree stays as it is when they are
taken away: to do so once more changes nothing. A composition is no different. To compose its
result again changes nothing, unless an `extend` node has come to its top. -/
theorem flattened_trees_stay (nodes : List Node) :
    (hasBlocks nodes = false → firstBlocks nodes = ∅
          ∧ ∀ (a : Assembly) active, a.resolve active nodes = .ok nodes)
      ∧ (∀ key, key ∈ firstBlocks nodes → hasBlocks nodes = true)
      ∧ (hasBlocks nodes = false ↔ ∀ n, Within n nodes → n.Fixed)
      ∧ (∀ key, key ∈ firstBlocks nodes ↔ ∃ body, Within (.block key body) nodes)
      ∧ flatten nodes = (Assembly.within nodes).resolve [] nodes
      ∧ (∀ (a : Assembly) active flat, a.marking = .splice → a.resolve active nodes = .ok flat →
          hasBlocks flat = false ∧ flatten flat = .ok flat
          ∧ ∀ (b : Assembly) active', b.resolve active' flat = .ok flat)
      ∧ (∀ (a : Assembly) active, a.marking = .splice →
          (a.resolve active nodes = .ok nodes ↔ hasBlocks nodes = false))
      ∧ (∀ store keys, (compose store keys nodes).result
          = (inherit store keys nodes).result
            >>= fun merged => (Assembly.within merged).resolve [] merged)
      ∧ ∀ store keys out, (compose store keys nodes).result = .ok out →
          hasBlocks out = false ∧ flatten out = .ok out
          ∧ (extension? out = none → ∀ store' keys', compose store' keys' out = ⟨[], .ok out⟩) := by
  refine ⟨fun h => ⟨firstBlocks_of_hasBlocks h, fun a active => Assembly.resolve_of_hasBlocks h⟩,
    fun key => hasBlocks_of_mem_firstBlocks, hasBlocks_eq_false_iff nodes,
    fun key => mem_firstBlocks_iff, Assembly.flatten_eq_resolve nodes, ?_,
    fun a active => Assembly.resolve_eq_self_iff, fun store keys => result_compose_eq store keys nodes,
    ?_⟩
  · intro a active flat hmarking h
    have hflat : hasBlocks flat = false := Assembly.hasBlocks_of_resolve_splice hmarking h
    exact ⟨hflat, Assembly.flatten_of_hasBlocks hflat, fun b active' => Assembly.resolve_of_hasBlocks hflat⟩
  · intro store keys out h
    have hout : hasBlocks out = false := hasBlocks_of_compose h
    exact ⟨hout, Assembly.flatten_of_hasBlocks hout,
      fun hroot store' keys' => compose_of_plain hroot hout⟩

/-- Blocks and slots at all kinds of places, and a slot for a condition, which is no place. -/
def scattered : Template :=
  [.block "row" [.loop "x" (.var "xs") [.slot "cell"]],
    .tag "get" [.block "cell" [.conditional (.last (.slot "row") [.slot "none"])]]]

def gathered : Template :=
  [.loop "x" (.var "xs") [.conditional (.last (.slot "row") [])],
    .tag "get" [.conditional (.last (.slot "row") [])]]

theorem flattened_trees_stay_scattered :
    (Assembly.within scattered).resolve [] scattered = .ok gathered
      ∧ (compose ∅ [] scattered).result = .ok gathered
      ∧ hasBlocks gathered = false ∧ firstBlocks gathered = ∅ ∧ flatten gathered = .ok gathered
      ∧ compose ∅ [] gathered = ⟨[], .ok gathered⟩ := by
  have hresolve : (Assembly.within scattered).resolve [] scattered = .ok gathered := by
    decide +kernel
  have hcompose : (compose ∅ [] scattered).result = .ok gathered := by
    decide +kernel
  obtain ⟨-, -, -, -, -, hflat, -, -, hagain⟩ := flattened_trees_stay scattered
  obtain ⟨hblocks, hflatten, -⟩ := hflat _ _ _ rfl hresolve
  exact ⟨hresolve, hcompose, hblocks, (flattened_trees_stay gathered).1 hblocks |>.1, hflatten,
    (hagain _ _ _ hcompose).2.2 rfl ∅ []⟩

end TemplateTree
