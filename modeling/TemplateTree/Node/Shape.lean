import TemplateTree.Json.Numeral
import TemplateTree.Node
import TemplateTree.Text.Quoted

/-!
# The written form of nodes

A node is written as a map whose member `node` names its kind, or as a list
that starts with that name. Beside it stand the fields of the kind, in the map
under their names and in any order, in the list in their declared order.
`Kind.fields` declares them: for each field its name and what it holds.

`ShapeError` lists what can be wrong with data that should be a template. The
data has the right form as text of its format, but not the right content.
-/

namespace TemplateTree

/-- What a field holds. Every kind has at most one field of each sort. -/
inductive FieldSort where
  | text
  | value
  | node
  /-- A list of nodes; empty if the field is absent. -/
  | nodes
  /-- The further arms of a conditional, if any. -/
  | next
  /-- Content by block key; empty if the field is absent. -/
  | exports
  deriving DecidableEq, Repr

structure Field where
  name : String
  sort : FieldSort
  deriving DecidableEq, Repr

def Kind.fields : Kind → List Field
  | .raw => [⟨"text", .text⟩]
  | .var => [⟨"name", .text⟩]
  | .constant => [⟨"value", .value⟩]
  | .tag => [⟨"name", .text⟩, ⟨"params", .nodes⟩]
  | .conditional => [⟨"condition", .node⟩, ⟨"body", .nodes⟩, ⟨"next", .next⟩]
  | .loop => [⟨"variable", .text⟩, ⟨"source", .node⟩, ⟨"body", .nodes⟩]
  | .extend => [⟨"key", .text⟩, ⟨"exports", .exports⟩]
  | .block => [⟨"key", .text⟩, ⟨"body", .nodes⟩]
  | .slot => [⟨"key", .text⟩]

/-- The name of the member that names the kind. -/
def kindMember : String := "node"

/-- Data that was found where something else was expected. -/
inductive Found where
  | null
  | bool (b : Bool)
  | number (n : Number)
  | text (s : String)
  | list
  | map

def Found.describe : Found → String
  | .null => "null"
  | .bool b => s!"boolean `{b}`"
  | .number (.integer n) => s!"integer `{n}`"
  | .number (.float x) => s!"floating point `{Json.numberLayout.float x}`"
  | .text s => s!"string {Text.quoted s}"
  | .list => "sequence"
  | .map => "map"

inductive Expected where
  | node | kindName | fieldName | text | nodes | exports | arm
  deriving DecidableEq, Repr

def Expected.describe : Expected → String
  | .node => "internally tagged enum Syntax"
  | .kindName => "variant identifier"
  | .fieldName => "field identifier"
  | .text => "a string"
  | .nodes => "a sequence"
  | .exports => "a map"
  | .arm => "struct Conditional"

/-- A count with its noun. -/
def counted (n : Nat) : String :=
  if n = 1 then "1 element" else s!"{n} elements"

/-- How messages describe a kind's list of fields. -/
def Kind.describeFields (kind : Kind) : String :=
  let count := counted kind.fields.length
  match kind with
  | .raw => s!"struct variant Syntax::Raw with {count}"
  | .var => s!"struct variant Syntax::Variable with {count}"
  | .constant => s!"struct variant Syntax::Constant with {count}"
  | .tag => s!"struct variant Syntax::Tag with {count}"
  | .conditional => s!"struct Conditional with {count}"
  | .loop => s!"struct variant Syntax::Loop with {count}"
  | .extend => s!"struct variant Syntax::Extend with {count}"
  | .block => s!"struct variant Syntax::Export with {count}"
  | .slot => s!"struct variant Syntax::Import with {count}"

/-- What is wrong with data that should be a template or a value. -/
inductive ShapeError where
  | invalidType (found : Found) (expected : Expected)
  /-- The name of a kind is none of the nine. -/
  | unknownKind (name : String)
  /-- The number of a kind is not below nine. -/
  | kindOutOfRange (number : Int)
  | duplicateField (name : String)
  | missingField (name : String)
  /-- A list of fields ends before a field that must be there. -/
  | tooFewFields (kind : Kind) (length : Nat)
  /-- A list of fields goes on behind the last field. -/
  | tooManyFields (kind : Kind) (length : Nat)
  | noValue

def ShapeError.message : ShapeError → String
  | .invalidType found expected =>
      s!"invalid type: {found.describe}, expected {expected.describe}"
  | .unknownKind name =>
      let names := ", ".intercalate (Kind.all.map fun kind => s!"`{kind.name}`")
      s!"unknown variant `{name}`, expected one of {names}"
  | .kindOutOfRange number =>
      s!"invalid value: integer `{number}`, expected variant index 0 <= i < {Kind.all.length}"
  | .duplicateField name => s!"duplicate field `{name}`"
  | .missingField name => s!"missing field `{name}`"
  | .tooFewFields kind length => s!"invalid length {length}, expected {kind.describeFields}"
  | .tooManyFields kind length =>
      s!"invalid length {length}, expected {counted kind.fields.length} in sequence"
  | .noValue => "data did not match any variant of untagged enum Value"

end TemplateTree
