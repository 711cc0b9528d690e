import TemplateTree.Decimal.Layout

/-!
# Numbers in data

Data formats know whole numbers and floating-point numbers. They are no
values of a template: they enter one as text.
-/

namespace TemplateTree

inductive Number where
  | integer (n : Int)
  | float (x : Float)
  deriving Inhabited

/-- The text of a number; whole numbers are written in full. -/
def Number.write (layout : Decimal.Layout) : Number → String
  | .integer n => toString n
  | .float x => layout.float x

end TemplateTree
