import TemplateTree.Error
import TemplateTree.Json.Token
import TemplateTree.Node.Shape

/-!
# Why data cannot be loaded

Data that comes as text can fail as text, or as a template, or as a value.
-/

namespace TemplateTree

/-- Why a template, a value or a context cannot be loaded. -/
inductive LoadError where
  | json (fault : Json.Fault)
  /-- The text is JSON, but not of the form that is needed. -/
  | shape (error : ShapeError)
  /-- The text is no YAML, or not of the form that is needed. -/
  | yaml
  /-- The data is no value or no context. -/
  | value (error : ValueError)

end TemplateTree
