import DeviceConfig.Compilation

/-!
# Growing a package

A package grows at its end: a new module, a new section in the last module, a new
element in the last section of that, or a new field on the last element of that.
-/

namespace DeviceConfig

/-- Something to append at the end of a package. -/
inductive Addition where
  | newModule (module : Module)
  | newSection (part : Section)
  | newElement (element : Element)
  | newField (field : Field)
  deriving DecidableEq, Repr

/-- Changes the last member of a list, if there is one and it can be changed. -/
def onLast? {α : Type} (change : α → Option α) : List α → Option (List α)
  | [] => none
  | [x] => (change x).map fun y => [y]
  | x :: y :: rest => (onLast? change (y :: rest)).map fun changed => x :: changed

/-- Declares a further field. -/
def Element.addField (field : Field) (element : Element) : Element :=
  { element with fields := element.fields ++ [field] }

/-- Declares a further element. -/
def Section.addElement (element : Element) (part : Section) : Section :=
  { part with elements := part.elements ++ [element] }

/-- Declares a further field on the last element. -/
def Section.addField? (field : Field) (part : Section) : Option Section :=
  (onLast? (fun element => some (element.addField field)) part.elements).map fun elements =>
    { part with elements }

/-- Declares a further section. -/
def Module.addSection (part : Section) (module : Module) : Module :=
  { module with sections := module.sections ++ [part] }

/-- Changes the last section. -/
def Module.changeLast? (change : Section → Option Section) (module : Module) : Option Module :=
  (onLast? change module.sections).map fun sections => { module with sections }

/-- Declares a further module. -/
def Package.addModule (module : Module) (package : Package) : Package :=
  { package with modules := package.modules ++ [module] }

/-- Changes the last module. -/
def Package.changeLast? (change : Module → Option Module) (package : Package) :
    Option Package :=
  (onLast? change package.modules).map fun modules => { package with modules }

/-- Appends at the end of a package, if there is something to append to. -/
def Package.add? (package : Package) : Addition → Option Package
  | .newModule module => some (package.addModule module)
  | .newSection part => package.changeLast? fun module => some (module.addSection part)
  | .newElement element =>
    package.changeLast? (Module.changeLast? fun part => some (part.addElement element))
  | .newField field => package.changeLast? (Module.changeLast? (Section.addField? field))

/-- A package that grew step by step, and its compilation after each step. -/
structure Growth where
  steps : List Compilation
  package : Package

/-- Grows a package, if every addition has something to be appended to. -/
def Package.grow? (package : Package) : List Addition → Option Growth
  | [] => some ⟨[], package⟩
  | addition :: additions => do
    let grown ← package.add? addition
    let growth ← grown.grow? additions
    return { growth with steps := grown.compile :: growth.steps }

end DeviceConfig
