import DeviceConfig.Name

/-!
# The configuration model

A package holds modules, a module holds sections, a section holds elements. An element
carries data fields and two command templates, one that installs it on the device and
one that removes it. Children keep the order in which they are declared.
-/

namespace DeviceConfig

/-- One datum of an element, found under its id. -/
structure Field where
  id : FieldId
  data : String
  deriving DecidableEq, Repr

/-- The two uses of an element's command templates. -/
inductive ExpressionKind where
  | install
  | uninstall
  deriving DecidableEq, Repr

/-- The word for a use of a template. -/
def ExpressionKind.word : ExpressionKind → String
  | install => "install"
  | uninstall => "uninstall"

/-- The command templates of an element. -/
structure Expressions where
  install : String := ""
  uninstall : String := ""
  deriving DecidableEq, Repr

/-- The template for one use. -/
def Expressions.get (expressions : Expressions) : ExpressionKind → String
  | .install => expressions.install
  | .uninstall => expressions.uninstall

/-- A configurable object of a section. -/
structure Element where
  name : ElementName
  fields : List Field := []
  expressions : Expressions := {}
  deriving DecidableEq, Repr

/-- The ids that an element declares, in order and with repetitions. -/
def Element.fieldIds (element : Element) : List FieldId :=
  element.fields.map Field.id

/-- A group of elements of one kind. -/
structure Section where
  name : SectionName
  elements : List Element := []
  deriving DecidableEq, Repr

/-- A self-contained part of a package. -/
structure Module where
  name : ModuleName
  sections : List Section := []
  deriving DecidableEq, Repr

/-- A whole device configuration. -/
structure Package where
  name : PackageName
  modules : List Module := []
  deriving DecidableEq, Repr

/-! ## Names within a scope -/

/-- The qualified name of an element in the scope of its section. -/
def Element.fullName (element : Element) (scope : String) : String :=
  qualify scope element.name.text

/-- The qualified name of a section in the scope of its module. -/
def Section.fullName (part : Section) (scope : String) : String :=
  qualify scope part.name.text

/-- The qualified name of a module in the scope of its package. -/
def Module.fullName (module : Module) (scope : String) : String :=
  qualify scope module.name.text

end DeviceConfig
