import DeviceConfig.Model

/-!
# Events

What happens while a configuration is collected and compiled is logged as a list of
events. Each event has a level, a message and details.
-/

namespace DeviceConfig

/-- What is collected: the data of all fields, or the commands for one use. -/
inductive CollectionKind where
  | fields
  | expressions (kind : ExpressionKind)
  deriving DecidableEq, Repr

/-- The words for a collection kind in events. -/
def CollectionKind.word : CollectionKind → String
  | fields => "Fields"
  | expressions .install => "Expressions(Install)"
  | expressions .uninstall => "Expressions(Uninstall)"

/-- The severity of an event. -/
inductive Level where
  | trace
  | debug
  | info
  | warn
  deriving DecidableEq, Repr

def Level.word : Level → String
  | trace => "TRACE"
  | debug => "DEBUG"
  | info => "INFO"
  | warn => "WARN"

/-- One step that is worth noting. -/
inductive Event where
  /-- A field placeholder became the placeholder of a key. -/
  | promoted (id : FieldId) (key : String)
  /-- A key came in that was already taken. -/
  | rejected (key : String)
  /-- The fields of a section are collected; `fields` counts the declared ones. -/
  | sectionFields (name : SectionName) (scope : String) (fields : Nat)
  /-- The commands of a section are collected; `elements` counts the declared ones. -/
  | sectionExpressions (name : SectionName) (scope : String) (kind : ExpressionKind)
      (elements : Nat)
  /-- A module is collected; `scope` is its own qualified name and `duplicates` counts
  the keys rejected in it. -/
  | moduleCollected (name : ModuleName) (scope : String) (kind : CollectionKind)
      (sections duplicates : Nat)
  /-- A package is collected; `entries` counts the accepted ones. -/
  | packageCollected (name : PackageName) (kind : CollectionKind) (modules entries : Nat)
  /-- A unit is compiled; the counts are the sizes of its maps. -/
  | compiled (unit : String) (fields install uninstall : Nat)
  /-- A unit is refused; the counts are those of its duplicates. -/
  | compilationFailed (unit : String) (fields install uninstall : Nat)
  deriving DecidableEq, Repr

/-- A detail of an event. -/
inductive Detail where
  | text (value : String)
  | count (value : Nat)
  deriving DecidableEq, Repr

namespace Event

def level : Event → Level
  | promoted .. => .trace
  | rejected .. => .warn
  | sectionFields .. => .debug
  | sectionExpressions .. => .debug
  | moduleCollected .. => .debug
  | packageCollected .. => .debug
  | compiled .. => .info
  | compilationFailed .. => .warn

def message : Event → String
  | promoted .. => "promoted field placeholder"
  | rejected .. => "rejected duplicate key"
  | sectionFields .. => "collected section fields"
  | sectionExpressions .. => "collected section expressions"
  | moduleCollected .. => "collected module"
  | packageCollected .. => "collected package"
  | compiled .. => "compiled"
  | compilationFailed .. => "compilation failed with duplicate keys"

/-- The details of an event under their labels. -/
def details : Event → List (String × Detail)
  | promoted id key => [("field_id", .text id.text), ("key", .text key)]
  | rejected key => [("key", .text key)]
  | sectionFields name scope fields =>
    [("section", .text name.text), ("prefix", .text scope), ("fields", .count fields)]
  | sectionExpressions name scope kind elements =>
    [("section", .text name.text), ("prefix", .text scope), ("kind", .text kind.word),
      ("elements", .count elements)]
  | moduleCollected name scope kind sections duplicates =>
    [("module", .text name.text), ("prefix", .text scope), ("kind", .text kind.word),
      ("sections", .count sections), ("duplicates", .count duplicates)]
  | packageCollected name kind modules entries =>
    [("package", .text name.text), ("kind", .text kind.word), ("modules", .count modules),
      ("entries", .count entries)]
  | compiled unit fields install uninstall =>
    [("unit", .text unit), ("fields", .count fields), ("install", .count install),
      ("uninstall", .count uninstall)]
  | compilationFailed unit fields install uninstall =>
    [("unit", .text unit), ("field_duplicates", .count fields),
      ("install_duplicates", .count install), ("uninstall_duplicates", .count uninstall)]

/-- The key that an event rejects. -/
def rejectedKey? : Event → Option String
  | rejected key => some key
  | _ => none

end Event

end DeviceConfig
