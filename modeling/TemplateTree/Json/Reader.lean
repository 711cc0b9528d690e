import TemplateTree.Json.Basic

/-!
# Reading JSON text

`read` takes the tokens of a text one after the other. What has been opened and
not closed is kept on a stack of frames, the innermost first; `Expecting` says
what may come next. At most 127 lists and objects may be open at a time.

A text that goes wrong still has a part that was read before, and a reader of
templates may find an error in that part, which then is the first error of the
text. So `Reading` keeps the frames that were open where the text went wrong.
`parse` is for those who need the whole text or nothing.
-/

namespace TemplateTree.Json

/-- A list or object that is open, with what it holds so far, last first. -/
inductive Frame where
  | list (items : List Json)
  /-- `pending?` is the name of the member whose value is being read. -/
  | object (members : List (String × Json)) (pending? : Option String)

/-- What may come next. -/
inductive Expecting where
  | value
  /-- A value, or the end of the list that has just been opened. -/
  | valueOrClose
  /-- A member, or the end of the object that has just been opened. -/
  | nameOrClose
  | name
  | colon
  /-- A comma, or the end of what is open. -/
  | commaOrClose
  /-- Nothing: this is the data. -/
  | nothing (data : Json)

/-- How the reading of a text ended. -/
inductive Reading where
  /-- The text is this data. -/
  | whole (data : Json)
  /-- The text goes on behind this data. -/
  | trailed (data : Json)
  /-- The text went wrong inside these frames, outermost first. -/
  | broken (frames : List Frame) (fault : Fault)

/-- The number of lists and objects that may be open at a time. -/
def maxDepth : Nat := 127

/-- What is expected behind data that has been read, and the frames with that
data in them. -/
def deliver (data : Json) : List Frame → List Frame × Expecting
  | [] => ([], .nothing data)
  | .list items :: frames => (.list (data :: items) :: frames, .commaOrClose)
  | .object members (some name) :: frames =>
      (.object ((name, data) :: members) none :: frames, .commaOrClose)
  | .object members none :: frames => (.object members none :: frames, .commaOrClose)

/-- Takes the token that begins a value. -/
def takeValue (frames : List Frame) : Token → Except Fault (List Frame × Expecting)
  | .null => .ok (deliver .null frames)
  | .bool b => .ok (deliver (.bool b) frames)
  | .number n => .ok (deliver (.number n) frames)
  | .string s => .ok (deliver (.string s) frames)
  | .openList =>
      if frames.length < maxDepth then .ok (.list [] :: frames, .valueOrClose)
      else .error .malformed
  | .openObject =>
      if frames.length < maxDepth then .ok (.object [] none :: frames, .nameOrClose)
      else .error .malformed
  | .broken fault | .brokenString fault => .error fault
  | .closeList | .closeObject | .comma | .colon => .error .malformed

def takeName (frames : List Frame) (token : Token) : Except Fault (List Frame × Expecting) :=
  match frames, token with
  | .object members _ :: frames, .string name => .ok (.object members (some name) :: frames, .colon)
  | _, .brokenString fault => .error fault
  | _, _ => .error .malformed

def close (frames : List Frame) (token : Token) : Except Fault (List Frame × Expecting) :=
  match frames, token with
  | .list items :: frames, .closeList => .ok (deliver (.list items.reverse) frames)
  | .object members _ :: frames, .closeObject => .ok (deliver (.object members.reverse) frames)
  | _, _ => .error .malformed

def take (frames : List Frame) (expecting : Expecting) (token : Token) :
    Except Fault (List Frame × Expecting) :=
  match expecting, token with
  | .value, token => takeValue frames token
  | .valueOrClose, .closeList => close frames .closeList
  | .valueOrClose, token => takeValue frames token
  | .nameOrClose, .closeObject => close frames .closeObject
  | .nameOrClose, token | .name, token => takeName frames token
  | .colon, .colon => .ok (frames, .value)
  | .colon, _ => .error .malformed
  | .commaOrClose, .comma =>
      match frames with
      | .object _ _ :: _ => .ok (frames, .name)
      | _ => .ok (frames, .value)
  | .commaOrClose, token => close frames token
  | .nothing _, _ => .error .malformed

/-- Reads tokens inside the given frames. -/
def readFrom (frames : List Frame) (expecting : Expecting) : List Token → Reading
  | [] =>
      match expecting with
      | .nothing data => .whole data
      | _ => .broken frames.reverse .ended
  | token :: tokens =>
      match expecting with
      | .nothing data => .trailed data
      | _ =>
          match take frames expecting token with
          | .ok (frames, expecting) => readFrom frames expecting tokens
          | .error fault => .broken frames.reverse fault

def read (text : String) : Reading :=
  readFrom [] .value (tokens text)

/-- The data that a text is. -/
def parse (text : String) : Except Fault Json :=
  match read text with
  | .whole data => .ok data
  | .trailed _ => .error .malformed
  | .broken _ fault => .error fault

end TemplateTree.Json
