import TemplateTree.Json.Tree
import TemplateTree.Node.Reader

/-!
# How a template may be given

`Presents` relates the content of a field to what may be written for it in JSON. A node is
given as an object that names its kind and holds its fields, in any order and with any
members beside them that are no fields of the kind, or as a list of the name of its kind
and its fields in their declared order. The further arms of a conditional are given in the
same two ways, without a kind, or as nothing when there are none. A field that may be
absent may be left out when it is empty; in a list only from the end. Which of these ways
is taken is open at every node, whatever was taken around it. What stands in a member that
is no field is open, too, even if it cannot be read.

`Node.content` and `Chain.content` are the fields of a node and of an arm, so that a kind
needs no rule of its own.
-/

namespace TemplateTree

/-- What a field that may be left out holds when it is. -/
def FieldSort.absent? : (sort : FieldSort) → Option sort.Content
  | .nodes => some []
  | .next => some none
  | .exports => some []
  | .text | .value | .node => none

/-- The fields of the first arm. -/
def Chain.content : Chain → Parts
  | .last condition body => ((Parts.empty.set .node condition).set .nodes body).set .next none
  | .more condition body next =>
      ((Parts.empty.set .node condition).set .nodes body).set .next (some next)

/-- The fields of a node. -/
def Node.content : Node → Parts
  | .raw text => Parts.empty.set .text text
  | .var name => Parts.empty.set .text name
  | .constant value => Parts.empty.set .value value
  | .tag name params => (Parts.empty.set .text name).set .nodes params
  | .conditional chain => chain.content
  | .loop item source body => ((Parts.empty.set .text item).set .node source).set .nodes body
  | .extend key exports => (Parts.empty.set .text key).set .exports exports
  | .block key body => (Parts.empty.set .text key).set .nodes body
  | .slot key => Parts.empty.set .text key

/-- Each field of the kind stands among the members once, or not at all if it may be absent
and is. -/
def Kind.Listed (kind : Kind) (content : Parts) (members : List (List Json.Piece × Json.Tree)) :
    Prop :=
  ∀ field ∈ kind.fields, (members.map (·.1)).count (Json.pieces field.name) = 1
    ∨ (Json.pieces field.name ∉ members.map (·.1) ∧ content field.sort = field.sort.absent?)

/-- So many fields of the kind stand in a list; those behind them may be absent and are. -/
def Kind.Covered (kind : Kind) (content : Parts) (count : Nat) : Prop :=
  count ≤ kind.fields.length
    ∧ ∀ field ∈ kind.fields.drop count, content field.sort = field.sort.absent?

mutual

/-- The one way in which a value is given. -/
def Value.given : Value → Json.Tree
  | .bool b => .bool b
  | .text s => .string (Json.pieces s)
  | .list items => .list (Value.givenAll items)

def Value.givenAll : List Value → List Json.Tree
  | [] => []
  | v :: vs => v.given :: Value.givenAll vs

end

/-- What may be written for the content of a field. -/
inductive Presents : (sort : FieldSort) → sort.Content → Json.Tree → Prop where
  | text (s : String) : Presents .text s (.string (Json.pieces s))
  | value (v : Value) : Presents .value v v.given
  | object {node : Node} {members : List (List Json.Piece × Json.Tree)}
      (hkind : members.filter (·.1 == Json.pieces kindMember)
        = [(Json.pieces kindMember, .string (Json.pieces node.kind.name))])
      (hlisted : node.kind.Listed node.content members)
      (h : ∀ field ∈ node.kind.fields, ∀ tree, (Json.pieces field.name, tree) ∈ members →
        ∀ content, node.content field.sort = some content → Presents field.sort content tree) :
      Presents .node node (.object members)
  | list {node : Node} {items : List Json.Tree}
      (hcovered : node.kind.Covered node.content items.length)
      (h : ∀ given ∈ node.kind.fields.zip items,
        ∀ content, node.content given.1.sort = some content →
          Presents given.1.sort content given.2) :
      Presents .node node (.list (.string (Json.pieces node.kind.name) :: items))
  | nodes {nodes : List Node} {items : List Json.Tree} (hlength : nodes.length = items.length)
      (h : ∀ given ∈ nodes.zip items, Presents .node given.1 given.2) :
      Presents .nodes nodes (.list items)
  | noArm : Presents .next none .null
  | arm {chain : Chain} {members : List (List Json.Piece × Json.Tree)}
      (hlisted : Kind.conditional.Listed chain.content members)
      (h : ∀ field ∈ Kind.conditional.fields, ∀ tree,
        (Json.pieces field.name, tree) ∈ members →
        ∀ content, chain.content field.sort = some content → Presents field.sort content tree) :
      Presents .next (some chain) (.object members)
  | armList {chain : Chain} {items : List Json.Tree}
      (hcovered : Kind.conditional.Covered chain.content items.length)
      (h : ∀ given ∈ Kind.conditional.fields.zip items,
        ∀ content, chain.content given.1.sort = some content →
          Presents given.1.sort content given.2) :
      Presents .next (some chain) (.list items)
  /-- Of two contents for one key the later counts. -/
  | exports {pairs : List (String × List Node)} {members : List (List Json.Piece × Json.Tree)}
      (hkeys : pairs.map (fun pair => Json.pieces pair.1) = members.map (·.1))
      (h : ∀ given ∈ pairs.zip members, Presents .nodes given.1.2 given.2.2) :
      Presents .exports (sortByKey pairs) (.object members)

/-! ## One form for all nodes -/

/-- The way in which all nodes of a template are given. -/
inductive Form where
  | object
  | list
  deriving DecidableEq, Repr

/-- Fields in their declared order, with their names. -/
def Kind.members (kind : Kind) (given : List Json.Tree) : List (List Json.Piece × Json.Tree) :=
  (kind.fields.zip given).map fun field => (Json.pieces field.1.name, field.2)

def Form.node (form : Form) (kind : Kind) (given : List Json.Tree) : Json.Tree :=
  match form with
  | .object =>
      .object ((Json.pieces kindMember, .string (Json.pieces kind.name)) :: kind.members given)
  | .list => .list (.string (Json.pieces kind.name) :: given)

def Form.arm (form : Form) (given : List Json.Tree) : Json.Tree :=
  match form with
  | .object => .object (Kind.conditional.members given)
  | .list => .list given

section Given

variable (form : Form)

mutual

/-- The fields of a node, in their declared order. -/
def Node.given : Node → List Json.Tree
  | .raw text => [.string (Json.pieces text)]
  | .var name => [.string (Json.pieces name)]
  | .constant value => [value.given]
  | .tag name params => [.string (Json.pieces name), .list (givenAll params)]
  | .conditional chain => chain.given
  | .loop item source body =>
      [.string (Json.pieces item), form.node source.kind source.given, .list (givenAll body)]
  | .extend key exports => [.string (Json.pieces key), .object (givenExports exports)]
  | .block key body => [.string (Json.pieces key), .list (givenAll body)]
  | .slot key => [.string (Json.pieces key)]

def Chain.given : Chain → List Json.Tree
  | .last condition body => [form.node condition.kind condition.given, .list (givenAll body)]
  | .more condition body next =>
      [form.node condition.kind condition.given, .list (givenAll body), form.arm next.given]

def givenAll : List Node → List Json.Tree
  | [] => []
  | node :: nodes => form.node node.kind node.given :: givenAll nodes

def givenExports : List (String × List Node) → List (List Json.Piece × Json.Tree)
  | [] => []
  | (key, body) :: exports =>
      (Json.pieces key, .list (givenAll body)) :: givenExports exports

end

/-- A template with all nodes given in the one form. -/
def Form.tree (template : Template) : Json.Tree :=
  .list (givenAll form template)

end Given

/-! ## Templates with their content in order -/

mutual

/-- The content that `extend` nodes supply is sorted by key, everywhere in the node. -/
def Node.Ordered : Node → Prop
  | .raw _ | .var _ | .constant _ | .slot _ => True
  | .tag _ params => Ordered params
  | .conditional chain => chain.Ordered
  | .loop _ source body => source.Ordered ∧ Ordered body
  | .extend _ exports => SortedByKey exports ∧ OrderedExports exports
  | .block _ body => Ordered body

def Chain.Ordered : Chain → Prop
  | .last condition body => condition.Ordered ∧ TemplateTree.Ordered body
  | .more condition body next => condition.Ordered ∧ TemplateTree.Ordered body ∧ next.Ordered

def Ordered : List Node → Prop
  | [] => True
  | node :: nodes => node.Ordered ∧ Ordered nodes

def OrderedExports : List (String × List Node) → Prop
  | [] => True
  | (_, body) :: exports => Ordered body ∧ OrderedExports exports

end

end TemplateTree
