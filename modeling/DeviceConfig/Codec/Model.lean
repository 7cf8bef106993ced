import DeviceConfig.Codec.Record
import DeviceConfig.Model

/-!
# Loading and saving the model

The parts of the configuration model are records, and their names are strings. Names,
ids and data have to be given; lists of children may be left out, and so may the
templates of an element.
-/

namespace DeviceConfig

open Codec (Layout)

/-- Two texts that a field consists of. -/
def Field.codec : Codec Field :=
  (Codec.record "Field"
      (.member "id" none (Codec.name .fieldId) <|
        .member "data" none Codec.string .done)).map
    (fun (id, data, ()) => { id, data })
    (fun field => (field.id, field.data, ()))

/-- The templates of an element. Each may be left out. -/
def Expressions.codec : Codec Expressions :=
  (Codec.record "Expressions"
      (.member "install" (some "") Codec.string <|
        .member "uninstall" (some "") Codec.string .done)).map
    (fun (install, uninstall, ()) => { install, uninstall })
    (fun expressions => (expressions.install, expressions.uninstall, ()))

/-- An element with its fields and templates. -/
def Element.codec : Codec Element :=
  (Codec.record "Element"
      (.member "name" none (Codec.name .elementName) <|
        .member "fields" (some []) Field.codec.list <|
          .member "expressions" (some {}) Expressions.codec .done)).map
    (fun (name, fields, expressions, ()) => { name, fields, expressions })
    (fun element => (element.name, element.fields, element.expressions, ()))

/-- A section with its elements. -/
def Section.codec : Codec Section :=
  (Codec.record "Section"
      (.member "name" none (Codec.name .sectionName) <|
        .member "elements" (some []) Element.codec.list .done)).map
    (fun (name, elements, ()) => { name, elements })
    (fun part => (part.name, part.elements, ()))

/-- A module with its sections. -/
def Module.codec : Codec Module :=
  (Codec.record "Module"
      (.member "name" none (Codec.name .moduleName) <|
        .member "sections" (some []) Section.codec.list .done)).map
    (fun (name, sections, ()) => { name, sections })
    (fun module => (module.name, module.sections, ()))

/-- A package with its modules. -/
def Package.codec : Codec Package :=
  (Codec.record "Package"
      (.member "name" none (Codec.name .packageName) <|
        .member "modules" (some []) Module.codec.list .done)).map
    (fun (name, modules, ()) => { name, modules })
    (fun package => (package.name, package.modules, ()))

end DeviceConfig
