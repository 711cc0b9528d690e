import TemplateTree.Datum
import TemplateTree.Node.Shape

/-!
# Reading nodes from data

`readField` reads data as what a field of a given sort holds, so reading a node
is reading a field of sort `node`. The members of a map are read in the order
of the data: of several things that are wrong with a node, first the kind
counts, then the member that comes first, then the first field that is absent.

Inside a node the kind of another one may be given by its number, and a field
by its position, where the data has numbers in these places. A node at the top
level names its kind (`readTopNode`).
-/

namespace TemplateTree

/-- The content of a field of a given sort. -/
@[reducible]
def FieldSort.Content : FieldSort → Type
  | .text => String
  | .value => Value
  | .node => Node
  | .nodes => List Node
  | .next => Option Chain
  | .exports => List (String × List Node)

/-- The fields of a node that have been read, one of each sort at most. -/
def Parts := (sort : FieldSort) → Option sort.Content

namespace Parts

def empty : Parts := fun _ => none

/-- The parts with one more field. -/
def set (parts : Parts) (sort : FieldSort) (content : sort.Content) : Parts :=
  fun other => if h : sort = other then some (h ▸ content) else parts other

end Parts

/-- How a message describes data. -/
def Datum.found : Datum → Found
  | .null => .null
  | .bool b => .bool b
  | .number n => .number n
  | .text s => .text s
  | .list _ => .list
  | .map _ => .map

/-- The error for data that is not what was expected. -/
def Datum.unexpected {α : Type} (datum : Datum) (expected : Expected) : Except ShapeError α :=
  .error (.invalidType datum.found expected)

/-! ### Text, values and kinds -/

def readText : Datum → Except ShapeError String
  | .text s => .ok s
  | datum => datum.unexpected .text

mutual

/-- Data as a value: truth values, text, and lists of such data. -/
def readValue : Datum → Except ShapeError Value
  | .bool b => .ok (.bool b)
  | .text s => .ok (.text s)
  | .list items => return .list (← readValues items)
  | .null | .number _ | .map _ => .error .noValue

def readValues : List Datum → Except ShapeError (List Value)
  | [] => return []
  | item :: items => return (← readValue item) :: (← readValues items)

end

/-- Data as a kind of node: its name or, where that is allowed, its number. -/
def readKind (numbered : Bool) : Datum → Except ShapeError Kind
  | .text name =>
      match Kind.ofName? name with
      | some kind => .ok kind
      | none => .error (.unknownKind name)
  | .number (.integer n) =>
      if numbered && 0 ≤ n then
        match Kind.all[n.toNat]? with
        | some kind => .ok kind
        | none => .error (.kindOutOfRange n)
      else Datum.unexpected (.number (.integer n)) .kindName
  | datum => datum.unexpected .kindName

/-- Whether a key is the name of the member that names the kind. -/
def isKindMember : Datum → Bool
  | .text name => name == kindMember
  | _ => false

/-- The kind that the members of a map name, behind members that named
`found?`. It may be named once. -/
def findKind (numbered : Bool) : (found? : Option Kind) → List (Datum × Datum) →
    Except ShapeError (Option Kind)
  | found?, [] => .ok found?
  | found?, (key, datum) :: members =>
      if isKindMember key then
        match found? with
        | some _ => .error (.duplicateField kindMember)
        | none => do findKind numbered (some (← readKind numbered datum)) members
      else findKind numbered found? members

/-- The kind that the members of a map name. -/
def kindOfMembers (numbered : Bool) (members : List (Datum × Datum)) : Except ShapeError Kind := do
  match ← findKind numbered none members with
  | some kind => return kind
  | none => .error (.missingField kindMember)

/-- The field of a kind that a key means, if it is one. -/
def Kind.field? (kind : Kind) : Datum → Except ShapeError (Option Field)
  | .text name => .ok (kind.fields.find? (·.name == name))
  | .number (.integer n) =>
      if 0 ≤ n then .ok kind.fields[n.toNat]?
      else Datum.unexpected (.number (.integer n)) .fieldName
  | key => key.unexpected .fieldName

/-- The name of the field of a given sort. -/
def Kind.fieldName (kind : Kind) (sort : FieldSort) : String :=
  ((kind.fields.find? (·.sort == sort)).map Field.name).getD ""

/-! ### Nodes from their parts -/

/-- A part that must be there. -/
def Parts.need (parts : Parts) (absent : FieldSort → ShapeError) (sort : FieldSort) :
    Except ShapeError sort.Content :=
  match parts sort with
  | some content => .ok content
  | none => .error (absent sort)

/-- The arms with the given parts. -/
def buildChain (parts : Parts) (absent : FieldSort → ShapeError) : Except ShapeError Chain := do
  let condition ← parts.need absent .node
  let body := (parts .nodes).getD []
  match (parts .next).getD none with
  | none => return .last condition body
  | some next => return .more condition body next

/-- The node of a kind with the given parts. `absent` is the error for a part
that is not there but must be. -/
def Kind.build (kind : Kind) (parts : Parts) (absent : FieldSort → ShapeError) :
    Except ShapeError Node := do
  match kind with
  | .raw => return .raw (← parts.need absent .text)
  | .var => return .var (← parts.need absent .text)
  | .constant => return .constant (← parts.need absent .value)
  | .tag => return .tag (← parts.need absent .text) ((parts .nodes).getD [])
  | .conditional => return .conditional (← buildChain parts absent)
  | .loop =>
      let item ← parts.need absent .text
      return .loop item (← parts.need absent .node) ((parts .nodes).getD [])
  | .extend => return .extend (← parts.need absent .text) ((parts .exports).getD [])
  | .block => return .block (← parts.need absent .text) ((parts .nodes).getD [])
  | .slot => return .slot (← parts.need absent .text)

/-- What is wrong with a map without a field that must be there. -/
def Kind.absentMember (kind : Kind) (sort : FieldSort) : ShapeError :=
  .missingField (kind.fieldName sort)

/-- Refuses a list of fields that is too long. -/
def Kind.checkLength (kind : Kind) (length : Nat) : Except ShapeError Unit :=
  if kind.fields.length < length then .error (.tooManyFields kind length) else .ok ()

/-! ### Nodes from data -/

mutual

/-- Data as the content of a field of a given sort. -/
def readField : (sort : FieldSort) → Datum → Except ShapeError sort.Content
  | .text, datum => readText datum
  | .value, datum => readValue datum
  | .node, .map members => do
      let kind ← kindOfMembers true members
      kind.build (← readMembers kind .empty members) kind.absentMember
  | .node, .list (tag :: items) => do
      let kind ← readKind true tag
      let parts ← readItems kind.fields .empty items
      kind.checkLength items.length
      kind.build parts fun _ => .tooFewFields kind items.length
  | .node, .list [] => .error (.missingField kindMember)
  | .node, datum => datum.unexpected .node
  | .nodes, .list items => readNodes items
  | .nodes, datum => datum.unexpected .nodes
  | .next, .null => return none
  | .next, .map members => do
      let parts ← readMembers .conditional .empty members
      return some (← buildChain parts (Kind.absentMember .conditional))
  | .next, .list items => do
      let parts ← readItems (Kind.fields .conditional) .empty items
      Kind.checkLength .conditional items.length
      return some (← buildChain parts fun _ => .tooFewFields .conditional items.length)
  | .next, datum => datum.unexpected .arm
  | .exports, .map members => return sortByKey (← readExports members)
  | .exports, datum => datum.unexpected .exports

/-- Each element of a list as a node. -/
def readNodes : List Datum → Except ShapeError (List Node)
  | [] => return []
  | item :: items => return (← readField .node item) :: (← readNodes items)

/-- The members of a map as content by block key. -/
def readExports : List (Datum × Datum) → Except ShapeError (List (String × List Node))
  | [] => return []
  | (key, datum) :: members => do
      let key ← readText key
      let body ← readField .nodes datum
      return (key, body) :: (← readExports members)

/-- The members of a map as fields of a kind, behind members that gave `parts`.
Members that are no fields of the kind are passed over. -/
def readMembers (kind : Kind) (parts : Parts) : List (Datum × Datum) → Except ShapeError Parts
  | [] => return parts
  | (key, datum) :: members => do
      match ← kind.field? key with
      | none => readMembers kind parts members
      | some field =>
          if (parts field.sort).isSome then .error (.duplicateField field.name)
          else readMembers kind (parts.set field.sort (← readField field.sort datum)) members

/-- The elements of a list as fields, in their declared order, behind elements
that gave `parts`. Elements behind the last field are passed over. -/
def readItems (fields : List Field) (parts : Parts) : List Datum → Except ShapeError Parts
  | [] => return parts
  | item :: items =>
      match fields with
      | [] => return parts
      | field :: fields => do
          readItems fields (parts.set field.sort (← readField field.sort item)) items

end

/-- Refuses a node whose kind is given by a number. -/
def checkTopKind : Datum → Except ShapeError Unit
  | .map members => do discard (findKind false none members)
  | .list (tag :: _) => do discard (readKind false tag)
  | _ => .ok ()

/-- Data as a node at the top level of a template. -/
def readTopNode (datum : Datum) : Except ShapeError Node := do
  checkTopKind datum
  readField .node datum

end TemplateTree
