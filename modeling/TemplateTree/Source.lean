import TemplateTree.Json.Template
import TemplateTree.Json.Value
import TemplateTree.Yaml.Template
import TemplateTree.Yaml.Value

/-!
# Where templates, values and contexts come from

Each of the three can be put together in the program, or loaded from data in
one of the two formats. `load` gives the result, or says why there is none.
-/

namespace TemplateTree

/-- Where a template comes from. -/
inductive TemplateSource where
  | nodes (template : Template)
  | json (text : String)
  | yaml (text : String)

def TemplateSource.load : TemplateSource → Except LoadError Template
  | .nodes template => .ok template
  | .json text => Json.loadTemplate text
  | .yaml text => (Yaml.loadTemplate? text).elim (.error .yaml) .ok

/-- Data from JSON text. -/
def loadJson (text : String) : Except LoadError Json :=
  (Json.parse text).mapError .json

/-- Data from YAML text. -/
def loadYaml (text : String) : Except LoadError Yaml :=
  (Yaml.parse? text).elim (.error .yaml) .ok

/-- Where a value comes from. -/
inductive ValueSource where
  | value (v : Value)
  /-- JSON text of the form in which values are written. -/
  | written (text : String)
  /-- Any JSON text. -/
  | json (text : String)
  | yaml (text : String)
  | yamlData (data : Yaml)

def ValueSource.load : ValueSource → Except LoadError Value
  | .value v => .ok v
  | .written text => Json.loadValue text
  | .json text => do (← loadJson text).toValue.mapError .value
  | .yaml text => do (← loadYaml text).toValue.mapError .value
  | .yamlData data => data.toValue.mapError .value

/-- Where a context comes from. -/
inductive ContextSource where
  /-- Bindings, made one after the other. -/
  | bindings (pairs : List (String × Value))
  | json (text : String)
  | yaml (text : String)
  | yamlData (data : Yaml)

def ContextSource.load : ContextSource → Except LoadError Context
  | .bindings pairs => (Context.ofList pairs).mapError .value
  | .json text => do (Context.ofJson (← loadJson text)).mapError .value
  | .yaml text => do (Context.ofYaml (← loadYaml text)).mapError .value
  | .yamlData data => (Context.ofYaml data).mapError .value

end TemplateTree
