import TemplateTree.Json.Reader
import TemplateTree.Proofs.JsonTokens

/-!
# Reading texts that the grammar allows

A text of a readable tree that is nested at most `maxDepth` deep is read as the data of the
tree, in whatever frames it stands (`readFrom_tokensThen`). Any other text of a tree goes
wrong, be it that the tree is nested deeper or that a number, a string or a name in it
cannot be read. The frames that are open then hold what was read of the tree before
(`Opens`): that is all a reader of templates gets to see of such a text, and it may complain
about it first.

Both are inductions over the tree. Lists and objects take a lemma each about what is left
of them once some of it is in their frame.
-/

namespace TemplateTree.Json

/-! ## One token -/

section Take

variable {frames frames' : List Frame} {expecting expecting' : Expecting} {token : Token}

theorem readFrom_of_take (h : take frames expecting token = .ok (frames', expecting'))
    (tokens : List Token) :
    readFrom frames expecting (token :: tokens) = readFrom frames' expecting' tokens := by
  cases expecting with
  | nothing data => cases h
  | _ => rw [readFrom, h]; exact nofun

theorem readFrom_of_take_error {fault : Fault} (hexpecting : ∀ data, expecting ≠ .nothing data)
    (h : take frames expecting token = .error fault) (tokens : List Token) :
    readFrom frames expecting (token :: tokens) = .broken frames.reverse fault := by
  cases expecting with
  | nothing data => exact absurd rfl (hexpecting data)
  | _ => rw [readFrom, h]; exact nofun

/-- Where a value may come, the token that begins one is taken for it. -/
theorem take_eq_takeValue (token : Token) (h : expecting = .value ∨ expecting = .valueOrClose)
    (htoken : token ≠ .closeList) : take frames expecting token = takeValue frames token := by
  rcases h with rfl | rfl
  · rw [take]
  · cases token with
    | closeList => exact absurd rfl htoken
    | _ => rfl

/-- What is opened is one frame more. -/
theorem take_open (h : expecting = .value ∨ expecting = .valueOrClose)
    (hroom : frames.length < maxDepth) :
    take frames expecting .openList = .ok (.list [] :: frames, .valueOrClose)
      ∧ take frames expecting .openObject = .ok (.object [] none :: frames, .nameOrClose) := by
  rw [take_eq_takeValue .openList h nofun, take_eq_takeValue .openObject h nofun, takeValue,
    takeValue, if_pos hroom, if_pos hroom]
  exact ⟨rfl, rfl⟩

theorem take_open_full (h : expecting = .value ∨ expecting = .valueOrClose)
    (hfull : ¬ frames.length < maxDepth) :
    take frames expecting .openList = .error .malformed
      ∧ take frames expecting .openObject = .error .malformed := by
  rw [take_eq_takeValue .openList h nofun, take_eq_takeValue .openObject h nofun, takeValue,
    takeValue, if_neg hfull, if_neg hfull]
  exact ⟨rfl, rfl⟩

variable (items : List Json) (members : List (String × Json)) (frames : List Frame)

theorem take_name (h : expecting = .name ∨ expecting = .nameOrClose) (name : String) :
    take (.object members none :: frames) expecting (.string name)
      = .ok (.object members (some name) :: frames, .colon) := by
  rcases h with rfl | rfl
  · rfl
  · rfl

theorem take_closeList : take (.list items :: frames) .commaOrClose .closeList
    = .ok ((deliver (.list items.reverse) frames).1,
      (deliver (.list items.reverse) frames).2) := rfl

theorem take_closeObject : take (.object members none :: frames) .commaOrClose .closeObject
    = .ok ((deliver (.object members.reverse) frames).1,
      (deliver (.object members.reverse) frames).2) := rfl

theorem take_colon : take frames .colon .colon = .ok (frames, .value) := rfl

end Take

/-! ## Trees that can be read -/

theorem numberThen_of_inRange {figures : Figures} (h : figures.numeral.InRange)
    (after : List Token) :
    numberThen figures after = .number figures.numeral.value :: after :=
  if_pos h

theorem stringThen_of_complete {pieces : List Piece} (h : Complete pieces)
    (after : List Token) : stringThen pieces after = .string (textOf pieces) :: after :=
  if_pos h

/-- The name of a member and the colon behind it. -/
theorem readFrom_name {expecting : Expecting}
    (h : expecting = .name ∨ expecting = .nameOrClose) {name : List Piece}
    (hname : Complete name) (members : List (String × Json)) (frames : List Frame)
    (tokens : List Token) :
    readFrom (.object members none :: frames) expecting (stringThen name (.colon :: tokens))
      = readFrom (.object members (some (textOf name)) :: frames) .value tokens := by
  rw [stringThen_of_complete hname, readFrom_of_take (take_name members frames h _),
    readFrom_of_take (take_colon _)]

mutual

/-- The data of a readable tree that is not nested too deep is delivered to the frames
around it. -/
theorem readFrom_tokensThen (tree : Tree) (hreadable : tree.Readable) (frames : List Frame)
    {expecting : Expecting} (hexpecting : expecting = .value ∨ expecting = .valueOrClose)
    (hdepth : frames.length + tree.depth ≤ maxDepth) (after : List Token) :
    readFrom frames expecting (tree.tokensThen after)
      = readFrom (deliver tree.data frames).1 (deliver tree.data frames).2 after := by
  match tree with
  | .null =>
      rw [Tree.tokensThen, Tree.data]
      exact readFrom_of_take (take_eq_takeValue .null hexpecting nofun) after
  | .bool _ =>
      rw [Tree.tokensThen, Tree.data]
      exact readFrom_of_take (take_eq_takeValue (.bool _) hexpecting nofun) after
  | .number _ =>
      rw [Tree.Readable] at hreadable
      rw [Tree.tokensThen, Tree.data, numberThen_of_inRange hreadable]
      exact readFrom_of_take (take_eq_takeValue (.number _) hexpecting nofun) after
  | .string _ =>
      rw [Tree.Readable] at hreadable
      rw [Tree.tokensThen, Tree.data, stringThen_of_complete hreadable]
      exact readFrom_of_take (take_eq_takeValue (.string _) hexpecting nofun) after
  | .list items =>
      rw [Tree.Readable] at hreadable
      rw [Tree.depth] at hdepth
      rw [Tree.tokensThen, Tree.data, readFrom_of_take (take_open hexpecting (by omega)).1]
      match items with
      | [] =>
          rw [Tree.itemsThen, Tree.dataItems]
          exact readFrom_of_take rfl after
      | item :: items =>
          exact readFrom_itemsThen (item :: items) (List.cons_ne_nil _ _) hreadable (.inr rfl) []
            (by omega) after
  | .object members =>
      rw [Tree.Readable] at hreadable
      rw [Tree.depth] at hdepth
      rw [Tree.tokensThen, Tree.data, readFrom_of_take (take_open hexpecting (by omega)).2]
      match members with
      | [] =>
          rw [Tree.membersThen, Tree.dataMembers]
          exact readFrom_of_take rfl after
      | member :: members =>
          exact readFrom_membersThen (member :: members) (List.cons_ne_nil _ _) hreadable
            (.inr rfl) [] (by omega) after

theorem readFrom_itemsThen (items : List Tree) (hitems : items ≠ [])
    (hreadable : Tree.ReadableItems items) {frames : List Frame} {expecting : Expecting}
    (hexpecting : expecting = .value ∨ expecting = .valueOrClose) (before : List Json)
    (hdepth : frames.length + 1 + Tree.depthItems items ≤ maxDepth) (after : List Token) :
    readFrom (.list before :: frames) expecting (Tree.itemsThen items after)
      = readFrom (deliver (.list (before.reverse ++ Tree.dataItems items)) frames).1
        (deliver (.list (before.reverse ++ Tree.dataItems items)) frames).2 after := by
  match items with
  | [item] =>
      rw [Tree.ReadableItems] at hreadable
      rw [Tree.depthItems, Tree.depthItems] at hdepth
      rw [Tree.itemsThen, Tree.dataItems, Tree.dataItems,
        readFrom_tokensThen item hreadable.1 _ hexpecting (by rw [List.length_cons]; omega)]
      refine (readFrom_of_take (take_closeList (item.data :: before) frames) after).trans ?_
      rw [List.reverse_cons]
  | item :: next :: items =>
      rw [Tree.ReadableItems] at hreadable
      rw [Tree.depthItems] at hdepth
      rw [Tree.itemsThen, Tree.dataItems,
        readFrom_tokensThen item hreadable.1 _ hexpecting (by rw [List.length_cons]; omega)]
      refine (readFrom_of_take rfl _).trans ?_
      refine (readFrom_itemsThen (next :: items) (List.cons_ne_nil _ _) hreadable.2 (.inl rfl)
        (item.data :: before) (by omega) after).trans ?_
      rw [List.reverse_cons, List.append_assoc, List.singleton_append]

theorem readFrom_membersThen (members : List (List Piece × Tree)) (hmembers : members ≠ [])
    (hreadable : Tree.ReadableMembers members) {frames : List Frame} {expecting : Expecting}
    (hexpecting : expecting = .name ∨ expecting = .nameOrClose) (before : List (String × Json))
    (hdepth : frames.length + 1 + Tree.depthMembers members ≤ maxDepth) (after : List Token) :
    readFrom (.object before none :: frames) expecting (Tree.membersThen members after)
      = readFrom (deliver (.object (before.reverse ++ Tree.dataMembers members)) frames).1
        (deliver (.object (before.reverse ++ Tree.dataMembers members)) frames).2 after := by
  match members with
  | [(name, tree)] =>
      rw [Tree.ReadableMembers] at hreadable
      rw [Tree.depthMembers, Tree.depthMembers] at hdepth
      rw [Tree.membersThen, Tree.dataMembers, Tree.dataMembers,
        readFrom_name hexpecting hreadable.1,
        readFrom_tokensThen tree hreadable.2.1 _ (.inl rfl) (by rw [List.length_cons]; omega)]
      refine (readFrom_of_take
        (take_closeObject ((textOf name, tree.data) :: before) frames) after).trans ?_
      rw [List.reverse_cons]
  | (name, tree) :: next :: members =>
      rw [Tree.ReadableMembers] at hreadable
      rw [Tree.depthMembers] at hdepth
      rw [Tree.membersThen, Tree.dataMembers, readFrom_name hexpecting hreadable.1,
        readFrom_tokensThen tree hreadable.2.1 _ (.inl rfl) (by rw [List.length_cons]; omega)]
      refine (readFrom_of_take rfl _).trans ?_
      refine (readFrom_membersThen (next :: members) (List.cons_ne_nil _ _) hreadable.2.2
        (.inl rfl) ((textOf name, tree.data) :: before) (by omega) after).trans ?_
      rw [List.reverse_cons, List.append_assoc, List.singleton_append]

end

/-- A text of a readable tree that is not nested too deep is read as the data of the tree. -/
theorem read_eq_whole {tree : Tree} {text : String} (h : tree.IsText text)
    (hreadable : tree.Readable) (hdepth : tree.depth ≤ maxDepth) :
    read text = .whole tree.data := by
  have hread := readFrom_tokensThen tree hreadable [] (.inl rfl) (by simpa using hdepth) []
  rw [read, tokens_eq h, hread]
  rfl

/-! ## Trees that cannot be read -/

/-- The frames that are open, outermost first, where the reading of a tree has come to some
tree inside of it, or to the name of a member. -/
inductive Opens : Tree → List Frame → Prop where
  | here (tree : Tree) : Opens tree []
  | item {before after : List Tree} {item : Tree} {inner : List Frame}
      (hbefore : Tree.ReadableItems before) (h : Opens item inner) :
      Opens (.list (before ++ item :: after)) (.list (Tree.dataItems before).reverse :: inner)
  | name {before after : List (List Piece × Tree)} {member : List Piece × Tree}
      (hbefore : Tree.ReadableMembers before) :
      Opens (.object (before ++ member :: after))
        [.object (Tree.dataMembers before).reverse none]
  | member {before after : List (List Piece × Tree)} {name : List Piece} {tree : Tree}
      {inner : List Frame} (hbefore : Tree.ReadableMembers before) (hname : Complete name)
      (h : Opens tree inner) :
      Opens (.object (before ++ (name, tree) :: after))
        (.object (Tree.dataMembers before).reverse (some (textOf name)) :: inner)

theorem readFrom_name_broken {expecting : Expecting}
    (h : expecting = .name ∨ expecting = .nameOrClose) {name : List Piece}
    (hname : ¬ Complete name) (members : List (String × Json)) (frames : List Frame)
    (tokens : List Token) :
    readFrom (.object members none :: frames) expecting (stringThen name tokens)
      = .broken (.object members none :: frames).reverse .malformed := by
  have htake : take (.object members none :: frames) expecting (.brokenString .malformed)
      = .error .malformed := by
    rcases h with rfl | rfl
    · rfl
    · rfl
  have hdata : ∀ data, expecting ≠ .nothing data := by
    rcases h with rfl | rfl
    · exact nofun
    · exact nofun
  rw [stringThen, if_neg hname, readFrom_of_take_error hdata htake]

theorem exists_itemsThen_eq (item : Tree) (items : List Tree) (after : List Token) :
    ∃ more, Tree.itemsThen (item :: items) after = item.tokensThen more := by
  cases items with
  | nil => exact ⟨_, by rw [Tree.itemsThen]⟩
  | cons next items => exact ⟨_, by rw [Tree.itemsThen]⟩

theorem exists_membersThen_eq (name : List Piece) (tree : Tree)
    (members : List (List Piece × Tree)) (after : List Token) :
    ∃ more, Tree.membersThen ((name, tree) :: members) after
      = stringThen name (.colon :: tree.tokensThen more) := by
  cases members with
  | nil => exact ⟨_, by rw [Tree.membersThen]⟩
  | cons next members => exact ⟨_, by rw [Tree.membersThen]⟩

theorem Tree.readableItems_concat {items : List Tree} {item : Tree}
    (h : ReadableItems items) (hitem : item.Readable) : ReadableItems (items ++ [item]) := by
  rw [readableItems_iff, List.forall_mem_append, List.forall_mem_singleton]
  exact ⟨(readableItems_iff items).mp h, hitem⟩

theorem Tree.readableMembers_concat {members : List (List Piece × Tree)} {name : List Piece}
    {tree : Tree} (h : ReadableMembers members) (hname : Complete name) (htree : tree.Readable) :
    ReadableMembers (members ++ [(name, tree)]) := by
  rw [readableMembers_iff, List.forall_mem_append, List.forall_mem_singleton]
  exact ⟨(readableMembers_iff members).mp h, hname, htree⟩

theorem Tree.reverse_dataItems_concat (items : List Tree) (item : Tree) :
    (dataItems (items ++ [item])).reverse = item.data :: (dataItems items).reverse := by
  rw [dataItems_eq_map, dataItems_eq_map, List.map_append, List.reverse_append]
  rfl

theorem Tree.reverse_dataMembers_concat (members : List (List Piece × Tree))
    (name : List Piece) (tree : Tree) :
    (dataMembers (members ++ [(name, tree)])).reverse
      = (textOf name, tree.data) :: (dataMembers members).reverse := by
  rw [dataMembers_eq_map, dataMembers_eq_map, List.map_append, List.reverse_append]
  rfl

mutual

/-- A tree that is not readable or nested too deep is read up to the first thing in it that
could not be read any more. -/
theorem readFrom_tokensThen_broken (tree : Tree) (frames : List Frame) {expecting : Expecting}
    (hexpecting : expecting = .value ∨ expecting = .valueOrClose)
    (hframes : frames.length ≤ maxDepth)
    (hbad : tree.Readable → maxDepth < frames.length + tree.depth) (after : List Token) :
    ∃ inner, Opens tree inner ∧ readFrom frames expecting (tree.tokensThen after)
      = .broken (frames.reverse ++ inner) .malformed := by
  have hdata : ∀ data, expecting ≠ .nothing data := by
    rcases hexpecting with rfl | rfl
    · exact nofun
    · exact nofun
  match tree with
  | .null | .bool _ =>
      rw [Tree.Readable, Tree.depth] at hbad
      exact absurd (hbad trivial) (by omega)
  | .number figures =>
      rw [Tree.Readable, Tree.depth] at hbad
      have hrange : ¬ figures.numeral.InRange := fun h => absurd (hbad h) (by omega)
      refine ⟨[], .here _, ?_⟩
      rw [Tree.tokensThen, numberThen, if_neg hrange, List.append_nil]
      exact readFrom_of_take_error hdata
        (take_eq_takeValue (.broken .malformed) hexpecting nofun) []
  | .string pieces =>
      rw [Tree.Readable, Tree.depth] at hbad
      have hcomplete : ¬ Complete pieces := fun h => absurd (hbad h) (by omega)
      refine ⟨[], .here _, ?_⟩
      rw [Tree.tokensThen, stringThen, if_neg hcomplete, List.append_nil]
      exact readFrom_of_take_error hdata
        (take_eq_takeValue (.brokenString .malformed) hexpecting nofun) []
  | .list items =>
      rw [Tree.Readable, Tree.depth, Nat.add_comm _ 1, ← Nat.add_assoc] at hbad
      rw [Tree.tokensThen]
      by_cases hroom : frames.length < maxDepth
      · obtain ⟨inner, hinner, hread⟩ := readFrom_itemsThen_broken [] items trivial (.inr rfl)
          hroom hbad after
        exact ⟨inner, hinner, (readFrom_of_take (take_open hexpecting hroom).1 _).trans hread⟩
      · refine ⟨[], .here _, ?_⟩
        rw [readFrom_of_take_error hdata (take_open_full hexpecting hroom).1, List.append_nil]
  | .object members =>
      rw [Tree.Readable, Tree.depth, Nat.add_comm _ 1, ← Nat.add_assoc] at hbad
      rw [Tree.tokensThen]
      by_cases hroom : frames.length < maxDepth
      · obtain ⟨inner, hinner, hread⟩ := readFrom_membersThen_broken [] members trivial (.inr rfl)
          hroom hbad after
        exact ⟨inner, hinner, (readFrom_of_take (take_open hexpecting hroom).2 _).trans hread⟩
      · refine ⟨[], .here _, ?_⟩
        rw [readFrom_of_take_error hdata (take_open_full hexpecting hroom).2, List.append_nil]

theorem readFrom_itemsThen_broken (before items : List Tree)
    (hbefore : Tree.ReadableItems before) {frames : List Frame} {expecting : Expecting}
    (hexpecting : expecting = .value ∨ expecting = .valueOrClose)
    (hframes : frames.length < maxDepth)
    (hbad : Tree.ReadableItems items → maxDepth < frames.length + 1 + Tree.depthItems items)
    (after : List Token) :
    ∃ inner, Opens (.list (before ++ items)) inner
      ∧ readFrom (.list (Tree.dataItems before).reverse :: frames) expecting
          (Tree.itemsThen items after)
        = .broken (frames.reverse ++ inner) .malformed := by
  match items with
  | [] =>
      rw [Tree.ReadableItems, Tree.depthItems] at hbad
      exact absurd (hbad trivial) (by omega)
  | item :: items =>
      by_cases hitem : item.Readable ∧ frames.length + 1 + item.depth ≤ maxDepth
      · have hitems : items ≠ [] := by
          intro hnil
          rw [hnil, Tree.ReadableItems, Tree.ReadableItems, Tree.depthItems, Tree.depthItems] at hbad
          exact absurd (hbad ⟨hitem.1, trivial⟩) (by omega)
        obtain ⟨inner, hinner, hread⟩ := readFrom_itemsThen_broken (before ++ [item]) items
          (Tree.readableItems_concat hbefore hitem.1) (.inl rfl) hframes
          (fun hreadable => by
            rw [Tree.ReadableItems, Tree.depthItems] at hbad
            have := hbad ⟨hitem.1, hreadable⟩
            omega) after
        rw [List.append_assoc] at hinner
        rw [Tree.reverse_dataItems_concat] at hread
        refine ⟨inner, hinner, ?_⟩
        rw [Tree.itemsThen_cons hitems,
          readFrom_tokensThen item hitem.1 _ hexpecting (by rw [List.length_cons]; exact hitem.2)]
        exact (readFrom_of_take rfl _).trans hread
      · obtain ⟨more, hmore⟩ := exists_itemsThen_eq item items after
        obtain ⟨inner, hinner, hread⟩ := readFrom_tokensThen_broken item
          (.list (Tree.dataItems before).reverse :: frames) hexpecting hframes
          (fun hreadable => Nat.not_le.mp fun hle => hitem ⟨hreadable, hle⟩) more
        refine ⟨_, .item hbefore hinner, ?_⟩
        rw [hmore, hread, List.reverse_cons, List.append_assoc]
        rfl

theorem readFrom_membersThen_broken (before members : List (List Piece × Tree))
    (hbefore : Tree.ReadableMembers before) {frames : List Frame} {expecting : Expecting}
    (hexpecting : expecting = .name ∨ expecting = .nameOrClose)
    (hframes : frames.length < maxDepth)
    (hbad : Tree.ReadableMembers members →
      maxDepth < frames.length + 1 + Tree.depthMembers members) (after : List Token) :
    ∃ inner, Opens (.object (before ++ members)) inner
      ∧ readFrom (.object (Tree.dataMembers before).reverse none :: frames) expecting
          (Tree.membersThen members after)
        = .broken (frames.reverse ++ inner) .malformed := by
  match members with
  | [] =>
      rw [Tree.ReadableMembers, Tree.depthMembers] at hbad
      exact absurd (hbad trivial) (by omega)
  | (name, tree) :: members =>
      obtain ⟨more, hmore⟩ := exists_membersThen_eq name tree members after
      by_cases hname : Complete name
      · by_cases htree : tree.Readable ∧ frames.length + 1 + tree.depth ≤ maxDepth
        · have hmembers : members ≠ [] := by
            intro hnil
            rw [hnil, Tree.ReadableMembers, Tree.ReadableMembers, Tree.depthMembers,
              Tree.depthMembers] at hbad
            exact absurd (hbad ⟨hname, htree.1, trivial⟩) (by omega)
          obtain ⟨inner, hinner, hread⟩ := readFrom_membersThen_broken
            (before ++ [(name, tree)]) members
            (Tree.readableMembers_concat hbefore hname htree.1) (.inl rfl) hframes
            (fun hreadable => by
              rw [Tree.ReadableMembers, Tree.depthMembers] at hbad
              have := hbad ⟨hname, htree.1, hreadable⟩
              omega) after
          rw [List.append_assoc] at hinner
          rw [Tree.reverse_dataMembers_concat] at hread
          refine ⟨inner, hinner, ?_⟩
          rw [Tree.membersThen_cons hmembers, readFrom_name hexpecting hname,
            readFrom_tokensThen tree htree.1 _ (.inl rfl)
              (by rw [List.length_cons]; exact htree.2)]
          exact (readFrom_of_take rfl _).trans hread
        · obtain ⟨inner, hinner, hread⟩ := readFrom_tokensThen_broken tree
            (.object (Tree.dataMembers before).reverse (some (textOf name)) :: frames) (.inl rfl)
            hframes (fun hreadable => Nat.not_le.mp fun hle => htree ⟨hreadable, hle⟩) more
          refine ⟨_, .member hbefore hname hinner, ?_⟩
          rw [hmore, readFrom_name hexpecting hname, hread, List.reverse_cons, List.append_assoc]
          rfl
      · refine ⟨_, .name hbefore, ?_⟩
        rw [hmore, readFrom_name_broken hexpecting hname, List.reverse_cons]

end

/-- A text of a tree that is not readable or nested too deep goes wrong inside the tree. -/
theorem read_eq_broken {tree : Tree} {text : String} (h : tree.IsText text)
    (hbad : tree.Readable → maxDepth < tree.depth) :
    ∃ frames, Opens tree frames ∧ read text = .broken frames .malformed := by
  obtain ⟨inner, hinner, hread⟩ := readFrom_tokensThen_broken tree [] (.inl rfl)
    (Nat.zero_le _) (by simpa using hbad) []
  refine ⟨inner, hinner, ?_⟩
  rw [read, tokens_eq h, hread]
  rfl

end TemplateTree.Json
