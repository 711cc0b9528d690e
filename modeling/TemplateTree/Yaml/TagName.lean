/-!
# The names of YAML tags

A tag is named by bytes. They are those of a text, except that percent signs
bring in whatever is put together like an encoded character, whether there is
such a character or not. A name goes up to its first zero byte.

Names that begin with an exclamation mark are one's own; the others belong to
the standard.
-/

namespace TemplateTree.Yaml

abbrev TagName := List UInt8

namespace TagName

/-- The name that bytes stand for: those in front of the first zero. -/
def ofBytes (bytes : List UInt8) : TagName := bytes.takeWhile (· != 0)

def ofText (text : String) : TagName := ofBytes text.toUTF8.data.toList

def standard (name : String) : TagName := ofText ("tag:yaml.org,2002:" ++ name)

def mark : UInt8 := 0x21

/-- Whether this is a name of one's own. -/
def isOwn (name : TagName) : Bool := name.head? == some mark

/-- A name of one's own as text, without the exclamation mark in front unless
that is all of it. A name that is no text is none. -/
def own? (name : TagName) : Option String :=
  if !name.isOwn then none
  else String.fromUTF8? ⟨(if name.length == 1 then name else name.drop 1).toArray⟩

end TagName

end TemplateTree.Yaml
