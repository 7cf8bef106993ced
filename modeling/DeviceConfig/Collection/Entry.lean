import DeviceConfig.Event
import DeviceConfig.Key
import DeviceConfig.Placeholder.Expansion
import DeviceConfig.Placeholder.Promotion

/-!
# The entries of a model

Every part of a model generates entries, in the order of its declarations: one for each
field, or one command for each element. Keys may repeat here.
-/

namespace DeviceConfig

/-- One generated entry with the promotions made in its value. -/
structure Entry where
  key : String
  value : String
  promotions : List Promotion := []
  deriving DecidableEq, Repr

/-- An entry without its promotions. -/
def Entry.pair (entry : Entry) : String × String :=
  (entry.key, entry.value)

/-- The entries of an element's fields: the data, naming its section. -/
def Element.fieldEntries (scope : String) (part : SectionName) (element : Element) :
    List Entry :=
  element.fields.map fun field =>
    { key := fieldKey (elementKey scope part element.name) field.id
      value := expandSection part field.data }

/-- The entry of an element's command: the template for one use, with the placeholders of
the element's own fields promoted. -/
def Element.commandEntry (scope : String) (part : SectionName) (kind : ExpressionKind)
    (element : Element) : Entry :=
  let key := elementKey scope part element.name
  let command := promote element.fieldIds (fieldKey key) (element.expressions.get kind)
  { key, value := command.text, promotions := command.promotions }

/-- The entries of an element. -/
def Element.entries (kind : CollectionKind) (scope : String) (part : SectionName)
    (element : Element) : List Entry :=
  match kind with
  | .fields => element.fieldEntries scope part
  | .expressions kind => [element.commandEntry scope part kind]

/-- The entries of a section that is resolved in a scope. -/
def Section.entries (kind : CollectionKind) (scope : String) (part : Section) : List Entry :=
  part.elements.flatMap fun element => element.entries kind scope part.name

/-- The entries of a module that is resolved in a scope. -/
def Module.entries (kind : CollectionKind) (scope : String) (module : Module) : List Entry :=
  module.sections.flatMap fun part => part.entries kind (module.fullName scope)

/-- The entries of a package. Its modules are resolved under its name. -/
def Package.entries (kind : CollectionKind) (package : Package) : List Entry :=
  package.modules.flatMap fun module => module.entries kind package.name.text

end DeviceConfig
