import TemplateTree.SortedPairs
import TemplateTree.Value

/-!
# Template trees

A template is a list of nodes. Four kinds of node put text into the output on
their own (`raw`, `var`, `constant`, `tag`), two choose or repeat
(`conditional`, `loop`), and three belong to inheritance: `extend` names the
template this one is built on, `block` is a named piece with default content,
and `slot` is a place where the content of a block goes. The last three are
gone, or refused, before anything is rendered.

The arms of a conditional form a `Chain`, which has at least one arm. `Chain`
is grown at its end by `elseIf` and `otherwise` and read from its start by
`arms`; the small lemmas beside them say that the two agree.

The content that an `extend` node supplies is a list of pairs sorted by key
with no key twice, so that two nodes with the same content are equal.
`Node.extending` builds it from pairs in any order.
-/

namespace TemplateTree

mutual

/-- One node of a template. -/
inductive Node where
  /-- Text that is output as it stands. -/
  | raw (text : String)
  /-- The value of a variable. -/
  | var (name : String)
  /-- A value written into the template. -/
  | constant (value : Value)
  /-- A directive; what it does with its parameters is its own affair. -/
  | tag (name : String) (params : List Node)
  /-- The body of the first arm whose condition holds. -/
  | conditional (chain : Chain)
  /-- The body once for each element of a list, with `item` bound to it. -/
  | loop (item : String) (source : Node) (body : List Node)
  /-- The template stored under `key`, with content for its blocks. -/
  | extend (key : String) (exports : List (String × List Node))
  /-- A named piece of the template, with its default content. -/
  | block (key : String) (body : List Node)
  /-- The place for the content of block `key`. -/
  | slot (key : String)

/-- The arms of a conditional, in the order in which they are tried. -/
inductive Chain where
  | last (condition : Node) (body : List Node)
  | more (condition : Node) (body : List Node) (next : Chain)

end

instance : Inhabited Node := ⟨.raw ""⟩

/-- A template is its nodes, in order. -/
abbrev Template := List Node

/-- The nine kinds of node. -/
inductive Kind where
  | raw | var | constant | tag | conditional | loop | extend | block | slot
  deriving DecidableEq, Repr, Inhabited

/-- The word for a kind, in messages and in the written form of a node. -/
def Kind.name : Kind → String
  | .raw => "raw"
  | .var => "variable"
  | .constant => "constant"
  | .tag => "tag"
  | .conditional => "conditional"
  | .loop => "loop"
  | .extend => "extend"
  | .block => "export"
  | .slot => "import"

/-- All kinds, in the order in which a written node may name them by number. -/
def Kind.all : List Kind :=
  [.raw, .var, .constant, .tag, .conditional, .loop, .extend, .block, .slot]

/-- The kind with a given name. -/
def Kind.ofName? (name : String) : Option Kind :=
  Kind.all.find? (·.name == name)

theorem Kind.mem_all (k : Kind) : k ∈ Kind.all := by
  cases k <;> decide

theorem Kind.ofName?_name (k : Kind) : Kind.ofName? k.name = some k := by
  cases k <;> decide +kernel

namespace Node

def kind : Node → Kind
  | .raw _ => .raw
  | .var _ => .var
  | .constant _ => .constant
  | .tag _ _ => .tag
  | .conditional _ => .conditional
  | .loop _ _ _ => .loop
  | .extend _ _ => .extend
  | .block _ _ => .block
  | .slot _ => .slot

end Node

/-! ### Equality -/

mutual

/-- Whether two nodes are the same, part by part. -/
def Node.same : Node → Node → Bool
  | .raw s, .raw t => s == t
  | .var s, .var t => s == t
  | .constant v, .constant w => v == w
  | .tag m ps, .tag n qs => m == n && sameNodes ps qs
  | .conditional c, .conditional d => c.same d
  | .loop i s b, .loop j t c => i == j && s.same t && sameNodes b c
  | .extend k xs, .extend l ys => k == l && sameExports xs ys
  | .block k b, .block l c => k == l && sameNodes b c
  | .slot k, .slot l => k == l
  | _, _ => false

def Chain.same : Chain → Chain → Bool
  | .last c b, .last d e => c.same d && sameNodes b e
  | .more c b m, .more d e n => c.same d && sameNodes b e && m.same n
  | _, _ => false

def sameNodes : List Node → List Node → Bool
  | [], [] => true
  | m :: ms, n :: ns => m.same n && sameNodes ms ns
  | _, _ => false

def sameExports : List (String × List Node) → List (String × List Node) → Bool
  | [], [] => true
  | (k, b) :: xs, (l, c) :: ys => k == l && sameNodes b c && sameExports xs ys
  | _, _ => false

end

mutual

theorem Node.same_iff (m : Node) : ∀ n, m.same n = true ↔ m = n := by
  intro n
  match m with
  | .raw _ | .var _ | .constant _ | .slot _ => cases n <;> simp [Node.same]
  | .tag _ ps => cases n <;> simp [Node.same, sameNodes_iff ps]
  | .conditional c => cases n <;> simp [Node.same, c.same_iff]
  | .loop _ s b => cases n <;> simp [Node.same, s.same_iff, sameNodes_iff b, and_assoc]
  | .extend _ xs => cases n <;> simp [Node.same, sameExports_iff xs]
  | .block _ b => cases n <;> simp [Node.same, sameNodes_iff b]

theorem Chain.same_iff (c : Chain) : ∀ d, c.same d = true ↔ c = d := by
  intro d
  match c with
  | .last m b => cases d <;> simp [Chain.same, m.same_iff, sameNodes_iff b]
  | .more m b c' =>
      cases d <;> simp [Chain.same, m.same_iff, sameNodes_iff b, c'.same_iff, and_assoc]

theorem sameNodes_iff (ms : List Node) : ∀ ns, sameNodes ms ns = true ↔ ms = ns := by
  intro ns
  match ms with
  | [] => cases ns <;> simp [sameNodes]
  | m :: ms => cases ns <;> simp [sameNodes, m.same_iff, sameNodes_iff ms]

theorem sameExports_iff (xs : List (String × List Node)) :
    ∀ ys, sameExports xs ys = true ↔ xs = ys := by
  intro ys
  match xs with
  | [] => cases ys <;> simp [sameExports]
  | (k, b) :: xs =>
      match ys with
      | [] => simp [sameExports]
      | (l, c) :: ys => simp [sameExports, sameNodes_iff b, sameExports_iff xs, and_assoc]

end

instance : DecidableEq Node := fun m n => decidable_of_iff _ (m.same_iff n)

instance : DecidableEq Chain := fun c d => decidable_of_iff _ (c.same_iff d)

/-! ### Chains -/

namespace Chain

/-- The arms from first to last, each a condition with its body. -/
def arms : Chain → List (Node × List Node)
  | .last condition body => [(condition, body)]
  | .more condition body next => (condition, body) :: next.arms

/-- The chain with one more arm at its end. -/
def elseIf (condition : Node) (body : List Node) : Chain → Chain
  | .last c b => .more c b (.last condition body)
  | .more c b next => .more c b (next.elseIf condition body)

/-- The chain with a last arm that is always taken. -/
def otherwise (body : List Node) (chain : Chain) : Chain :=
  chain.elseIf (.constant (.bool true)) body

theorem arms_ne_nil (chain : Chain) : chain.arms ≠ [] := by
  cases chain <;> simp [arms]

theorem arms_elseIf (condition : Node) (body : List Node) (chain : Chain) :
    (chain.elseIf condition body).arms = chain.arms ++ [(condition, body)] := by
  match chain with
  | .last c b => simp [elseIf, arms]
  | .more c b next => simp [elseIf, arms, arms_elseIf condition body next]

end Chain

/-! ### Supplied content -/

/-- An `extend` node that supplies the given content; of two contents for one
block the later counts. -/
def Node.extending (key : String) (exports : List (String × List Node)) : Node :=
  .extend key (sortByKey exports)

end TemplateTree
