import Manuscript.Json.Parser
import Manuscript.Json.Printer
import Manuscript.Json.Record
import Manuscript.Node

/-!
# Nodes in JSON

A node is written as an object with the fields `name`, `properties`, `classes`, `children` and `value`. Only the
name is required. A string `value`, even an empty one, wins over `children`. A style class that is given twice
counts once, at its first place.
-/

namespace Manuscript.Node

/-- The fields of a node in their order. -/
def fieldNames : List String :=
  ["name", "properties", "classes", "children", "value"]

/-- The classes without repetitions, each at its first place. -/
def distinctClasses (classes : List String) : List String :=
  classes.foldl (fun seen style => if seen.contains style then seen else seen ++ [style]) []

/-- A node from a JSON value, with at most `levels` levels of arrays and objects looked into. -/
def ofJson? : Nat → Json → Option Node
  | 0, _ => none
  | levels + 1, json => do
    let fields ← Json.record? fieldNames json
    let name ← Json.field? fields "name" Json.string?
    let properties ← Json.fieldOr fields "properties" ∅ (Json.dictionary? levels)
    let classes ← Json.fieldOr fields "classes" [] (Json.strings? levels)
    let children ←
      match levels with
      | 0 => Json.fieldOr fields "children" [] (fun _ => none)
      | inner + 1 =>
        Json.fieldOr fields "children" [] (fun
          | .array items => items.mapM (ofJson? inner)
          | _ => none)
    let value ← Json.fieldOr fields "value" none (Json.nullable? Json.string?)
    pure
      { name
        properties
        classes := distinctClasses classes
        content :=
          match value with
          | some text => .value text
          | none => .children children }

/-- A field of an object that is left out when it would be empty. -/
def unlessEmpty (isEmpty : Bool) (name : String) (value : Json) : List (String × Json) :=
  if isEmpty then [] else [(name, value)]

/-- A node as a JSON value. -/
def toJson : Node → Json
  | ⟨name, properties, classes, .value text⟩ =>
    .ofMembers (("name", .ofString name) ::
      (unlessEmpty properties.isEmpty "properties" (.ofDictionary properties) ++
        (unlessEmpty classes.isEmpty "classes" (.ofStrings classes) ++ [("value", .ofString text)])))
  | ⟨name, properties, classes, .children nodes⟩ =>
    .ofMembers (("name", .ofString name) ::
      (unlessEmpty properties.isEmpty "properties" (.ofDictionary properties) ++
        (unlessEmpty classes.isEmpty "classes" (.ofStrings classes) ++
          unlessEmpty nodes.isEmpty "children" (.array (all nodes)))))
where
  /-- The values of the nodes of a list. -/
  all : List Node → List Json
    | [] => []
    | node :: rest => node.toJson :: all rest

/-- The text of a node. -/
def print (node : Node) : List Char :=
  node.toJson.print

/-- The node that a text is. -/
def parse? (s : List Char) : Option Node :=
  (Json.parse? s).bind (ofJson? Json.maxLevels)

end Manuscript.Node
