/-!
# Pairs sorted by key

A finite map that has to be part of a tree, and equal to another one as soon
as it holds the same pairs, is kept as a list sorted by key with no key twice.
Keys are compared character by character by code point, which is also the
order of their UTF-8 bytes.
-/

namespace TemplateTree

/-- The keys go up, so none occurs twice. -/
def SortedByKey {α : Type} (pairs : List (String × α)) : Prop :=
  pairs.Pairwise (·.1 < ·.1)

/-- Puts a pair into a list sorted by key; a pair with that key is replaced. -/
def insertSorted {α : Type} (key : String) (a : α) : List (String × α) → List (String × α)
  | [] => [(key, a)]
  | (k, b) :: rest =>
      if key < k then (key, a) :: (k, b) :: rest
      else if key = k then (key, a) :: rest
      else (k, b) :: insertSorted key a rest

/-- The pairs sorted by key. Of two pairs with one key the later stays. -/
def sortByKey {α : Type} (pairs : List (String × α)) : List (String × α) :=
  pairs.foldl (fun sorted pair => insertSorted pair.1 pair.2 sorted) []

theorem mem_insertSorted {α : Type} {key : String} {a : α} {pairs : List (String × α)}
    {pair : String × α} (h : pair ∈ insertSorted key a pairs) :
    pair = (key, a) ∨ pair ∈ pairs := by
  induction pairs with
  | nil => simpa [insertSorted] using h
  | cons p rest ih =>
      obtain ⟨k, b⟩ := p
      simp only [insertSorted] at h
      split at h
      · simpa using h
      · split at h
        · rcases List.mem_cons.1 h with rfl | h
          · exact .inl rfl
          · exact .inr (List.mem_cons_of_mem _ h)
        · rcases List.mem_cons.1 h with rfl | h
          · exact .inr List.mem_cons_self
          · exact (ih h).imp_right (List.mem_cons_of_mem _)

theorem SortedByKey.insertSorted {α : Type} {key : String} {a : α}
    {pairs : List (String × α)} (h : SortedByKey pairs) :
    SortedByKey (insertSorted key a pairs) := by
  induction pairs with
  | nil => simp [SortedByKey, TemplateTree.insertSorted]
  | cons p rest ih =>
      obtain ⟨k, b⟩ := p
      obtain ⟨hk, hrest⟩ := List.pairwise_cons.1 h
      simp only [TemplateTree.insertSorted]
      split
      · rename_i hlt
        refine List.pairwise_cons.2 ⟨fun q hq => ?_, h⟩
        rcases List.mem_cons.1 hq with rfl | hq
        · exact hlt
        · exact String.lt_trans hlt (hk q hq)
      · split
        · rename_i heq
          exact List.pairwise_cons.2 ⟨fun q hq => heq ▸ hk q hq, hrest⟩
        · rename_i hlt hne
          refine List.pairwise_cons.2 ⟨fun q hq => ?_, ih hrest⟩
          rcases mem_insertSorted hq with rfl | hq
          · exact String.not_le.1 fun hle => hne (String.le_antisymm hle (String.not_lt.1 hlt))
          · exact hk q hq

theorem sortedByKey_foldl {α : Type} (pairs : List (String × α)) :
    ∀ sorted, SortedByKey sorted →
      SortedByKey (pairs.foldl (fun sorted pair => insertSorted pair.1 pair.2 sorted) sorted) := by
  induction pairs with
  | nil => exact fun _ h => h
  | cons p rest ih => exact fun _ h => ih _ h.insertSorted

theorem sortedByKey_sortByKey {α : Type} (pairs : List (String × α)) :
    SortedByKey (sortByKey pairs) :=
  sortedByKey_foldl pairs [] List.Pairwise.nil

/-- A key above all others goes to the end. -/
theorem insertSorted_eq_append {α : Type} {key : String} {a : α} {pairs : List (String × α)}
    (h : ∀ pair ∈ pairs, pair.1 < key) :
    insertSorted key a pairs = pairs ++ [(key, a)] := by
  induction pairs with
  | nil => rfl
  | cons p rest ih =>
      obtain ⟨k, b⟩ := p
      have hk : k < key := h (k, b) List.mem_cons_self
      rw [insertSorted, if_neg fun hlt => String.lt_irrefl k (String.lt_trans hk hlt),
        if_neg fun (heq : key = k) => String.lt_irrefl k (heq ▸ hk),
        ih fun pair hp => h pair (List.mem_cons_of_mem _ hp), List.cons_append]

theorem foldl_insertSorted_of_sorted {α : Type} (pairs : List (String × α)) :
    ∀ before, SortedByKey (before ++ pairs) →
      pairs.foldl (fun sorted pair => insertSorted pair.1 pair.2 sorted) before
        = before ++ pairs := by
  induction pairs with
  | nil => simp
  | cons p rest ih =>
      intro before h
      have hp : ∀ q ∈ before, q.1 < p.1 := fun q hq =>
        (List.pairwise_append.1 h).2.2 q hq p List.mem_cons_self
      rw [List.foldl_cons, insertSorted_eq_append hp, ih _ (by simpa using h)]
      simp

/-- Sorting changes nothing in a list that is sorted already. -/
theorem sortByKey_of_sorted {α : Type} {pairs : List (String × α)} (h : SortedByKey pairs) :
    sortByKey pairs = pairs := by
  simpa [sortByKey] using foldl_insertSorted_of_sorted pairs [] (by simpa using h)

end TemplateTree
