import TemplateTree.Yaml.Tokens
import TemplateTree.Yaml.Tree

/-!
# YAML text as a document

`document?` puts the tokens of a text together to the tree of its only
document.

An anchor gets a number when its node begins: the count of the different names
before it. Where a name is given a second time the count does not go up, so a
later anchor can have the same number; an alias then stands for the node that
begins last.
-/

namespace TemplateTree.Yaml

/-- The state of putting tokens together. -/
structure Parsing where
  tokens : List Token
  /-- The replacements for the handles of tags. -/
  handles : List (String × TagName) := []
  /-- The anchors so far, each with its number. -/
  names : List (String × Nat) := []
  /-- How many nodes with an anchor have begun. -/
  begun : Nat := 0
  anchored : List Anchored := []

/-- A step that fails where the tokens make no document. -/
abbrev Parse := StateT Parsing Option

namespace Parse

/-- The next token; the end of the text counts as none. -/
def peek? : Parse (Option Token) := return (← get).tokens.head?

def advance : Parse Unit :=
  modify fun s => { s with tokens := s.tokens.tail }

def accept (t : Token) : Parse Bool := do
  if (← peek?) == some t then
    advance
    return true
  else return false

def expect (t : Token) : Parse Unit := do
  if !(← accept t) then failure

def sees (ts : List Token) : Parse Bool := do
  return (← peek?).any (ts.contains ·)

/-- The tag that a handle and a suffix stand for. -/
def resolveTag (handle : String) (suffix : TagName) : Parse TagName := do
  if handle == "" then return suffix
  else
    match (← get).handles.lookup handle with
    | some replacement => return replacement ++ suffix
    | none => failure

/-- The number of a new anchor, and how many nodes with one begin before it. -/
def newAnchor (name : String) : Parse (Nat × Nat) := do
  let s ← get
  let number := s.names.length
  let names :=
    if (s.names.lookup name).isSome then
      s.names.map fun (other, n) => (other, if other == name then number else n)
    else (name, number) :: s.names
  set { s with names, begun := s.begun + 1 }
  return (number, s.begun)

def properties : Parse (Option (Nat × Nat) × Option TagName) := do
  match ← peek? with
  | some (.anchor name) =>
      advance
      let anchor ← newAnchor name
      match ← peek? with
      | some (.tag handle suffix) =>
          advance
          return (some anchor, some (← resolveTag handle suffix))
      | _ => return (some anchor, none)
  | some (.tag handle suffix) =>
      advance
      match ← peek? with
      | some (.anchor name) =>
          advance
          let anchor ← newAnchor name
          return (some anchor, some (← resolveTag handle suffix))
      | _ => return (none, some (← resolveTag handle suffix))
  | _ => return (none, none)

/-- Keeps a node under its anchor. -/
def keep (anchor : Option (Nat × Nat)) (node : Tree) : Parse Tree := do
  if let some (target, order) := anchor then
    modify fun s => { s with anchored := ⟨target, order, node⟩ :: s.anchored }
  return node

mutual

/-- A node. `block` says whether it may be a block, `indentless` whether the
entries of a sequence may stand where the key of their mapping begins. -/
def node (block indentless : Bool) : Nat → Parse Tree
  | 0 => failure
  | n + 1 => do
      if let some (.alias name) ← peek? then
        advance
        match (← get).names.lookup name with
        | some target => return .alias target
        | none => failure
      let (anchor, tag) ← properties
      match ← peek? with
      | some (.scalar text plain) =>
          advance
          keep anchor (.scalar tag plain text)
      | some .flowSequenceStart =>
          advance
          keep anchor (.sequence tag (← flowItems true n))
      | some .flowMappingStart =>
          advance
          keep anchor (.mapping tag (← flowMembers true n))
      | some .blockEntry =>
          if indentless then keep anchor (.sequence tag (← entries true n))
          else absent anchor tag
      | some .blockSequenceStart =>
          if block then
            advance
            keep anchor (.sequence tag (← entries false n))
          else absent anchor tag
      | some .blockMappingStart =>
          if block then
            advance
            keep anchor (.mapping tag (← members n))
          else absent anchor tag
      | _ => absent anchor tag

/-- The empty scalar that an anchor or a tag alone stands for. -/
def absent (anchor : Option (Nat × Nat)) (tag : Option TagName) : Parse Tree :=
  if anchor.isSome || tag.isSome then keep anchor (.scalar tag true "") else failure

/-- A node, unless one of the given tokens comes next. -/
def nodeUnless (ts : List Token) (block indentless : Bool) : Nat → Parse Tree
  | 0 => failure
  | n + 1 => do
      if ← sees ts then return .empty else node block indentless n

/-- The entries of a block sequence, up to and with its end. Without
indentation there is no token for the end. -/
def entries (indentless : Bool) : Nat → Parse (List Tree)
  | 0 => failure
  | n + 1 => do
      if ← accept .blockEntry then
        let stops : List Token :=
          if indentless then [.blockEntry, .key, .value, .blockEnd] else [.blockEntry, .blockEnd]
        let item ← nodeUnless stops true false n
        return item :: (← entries indentless n)
      else if indentless then return []
      else
        expect .blockEnd
        return []

/-- The members of a block mapping, up to and with its end. -/
def members : Nat → Parse (List (Tree × Tree))
  | 0 => failure
  | n + 1 => do
      if ← accept .key then
        let key ← nodeUnless [.key, .value, .blockEnd] true true n
        let value ←
          if ← accept .value then nodeUnless [.key, .value, .blockEnd] true true n
          else pure .empty
        return (key, value) :: (← members n)
      else
        expect .blockEnd
        return []

/-- The elements of a sequence in brackets, up to and with the closing one. An
element can be a mapping with a single member. -/
def flowItems (first : Bool) : Nat → Parse (List Tree)
  | 0 => failure
  | n + 1 => do
      if ← accept .flowSequenceEnd then return []
      if !first then expect .flowEntry
      if ← accept .flowSequenceEnd then return []
      let item ←
        if ← accept .key then do
          let key ←
            if ← sees [.value, .flowEntry, .flowSequenceEnd] then do
              advance
              pure .empty
            else node false false n
          let value ←
            if ← accept .value then nodeUnless [.flowEntry, .flowSequenceEnd] false false n
            else pure .empty
          pure (.mapping none [(key, value)])
        else node false false n
      return item :: (← flowItems false n)

/-- The members of a mapping in braces, up to and with the closing one. -/
def flowMembers (first : Bool) : Nat → Parse (List (Tree × Tree))
  | 0 => failure
  | n + 1 => do
      if ← accept .flowMappingEnd then return []
      if !first then expect .flowEntry
      if ← accept .flowMappingEnd then return []
      let member ←
        if ← accept .key then do
          let key ← nodeUnless [.value, .flowEntry, .flowMappingEnd] false false n
          let value ←
            if ← accept .value then nodeUnless [.flowEntry, .flowMappingEnd] false false n
            else pure .empty
          pure (key, value)
        else do
          let key ← node false false n
          pure (key, .empty)
      return member :: (← flowMembers false n)

end

/-- The handles of tags that need no directive. -/
def defaultHandles : List (String × TagName) :=
  [("!", [TagName.mark]), ("!!", .standard "")]

/-- Directives, up to the mark where the document starts. -/
def directives (version : Bool) (handles : List (String × TagName)) : Nat → Parse Unit
  | 0 => failure
  | n + 1 => do
      match ← peek? with
      | some (.versionDirective major minor) =>
          if version || major != 1 || (minor != 1 && minor != 2) then failure
          advance
          directives true handles n
      | some (.tagDirective handle replacement) =>
          if (handles.lookup handle).isSome then failure
          advance
          directives version ((handle, replacement) :: handles) n
      | _ =>
          expect .documentStart
          modify fun s => { s with handles := handles ++ defaultHandles }

/-- The content of the document, if there is one, up to the end of the text. -/
def stream (n : Nat) : Parse (Option Tree) := do
  if (← peek?).isNone then return none
  let root ←
    match ← peek? with
    | some (.versionDirective _ _) | some (.tagDirective _ _) | some .documentStart => do
        directives false [] n
        match ← peek? with
        | none | some (.versionDirective _ _) | some (.tagDirective _ _) | some .documentStart
        | some .documentEnd => pure .empty
        | _ => node true false n
    | _ =>
        modify fun s => { s with handles := defaultHandles }
        node true false n
  ends n
  return some root
where
  /-- Passes over marks where the document ends, up to the end of the text. -/
  ends : Nat → Parse Unit
    | 0 => failure
    | n + 1 => do
        if ← accept .documentEnd then ends n
        else if (← peek?).isSome then failure

end Parse

/-- The only document of a text, without aliases. The inner option is empty if
the text has no content at all. -/
def document? (text : String) : Option (Option Tree) := do
  let tokens ← tokens? text
  let (root?, s) ← (Parse.stream (4 * tokens.length + 16)).run { tokens }
  match root? with
  | none => return none
  | some root =>
      let (tree, _) ← (root.expand s.anchored maxDepth).run (root.marks * 100)
      return some tree

end TemplateTree.Yaml
