import DeviceConfig.Collection.Entry
import DeviceConfig.DuplicateKeys
import DeviceConfig.KeyMap

/-!
# Collecting entries

A ledger takes in entries one by one. It keeps the first entry of each key, lists every
later one as a duplicate and logs what happens. Sections, modules and packages are
collected by walking them with one ledger, so that a key space reaches over all of the
walked part.
-/

namespace DeviceConfig

/-- What has been collected so far. -/
structure Ledger where
  kept : KeyMap := .empty
  duplicates : DuplicateKeys := {}
  log : List Event := []

/-- A collection that met duplicate keys, with the entries that it kept. -/
structure Conflict where
  kept : KeyMap
  duplicates : DuplicateKeys

namespace Ledger

/-- The ledger before anything is collected. -/
def empty : Ledger := {}

/-- Logs further events. -/
def note (ledger : Ledger) (events : List Event) : Ledger :=
  { ledger with log := ledger.log ++ events }

/-- Keeps an entry if its key is new, and lists the key as a duplicate otherwise. -/
def insert (ledger : Ledger) (key value : String) : Ledger :=
  match ledger.kept.insertNew? key value with
  | some kept => { ledger with kept }
  | none => { ledger with duplicates := ledger.duplicates.push key }.note [.rejected key]

/-- Takes in an entry. Its promotions are logged first, whether it is kept or not. -/
def record (ledger : Ledger) (entry : Entry) : Ledger :=
  (ledger.note (entry.promotions.map fun p => .promoted p.id p.key)).insert entry.key entry.value

/-- The collected map if every key was new, and the conflict otherwise. -/
def result (ledger : Ledger) : Except Conflict KeyMap :=
  if ledger.duplicates.isEmpty then
    .ok ledger.kept
  else
    .error ⟨ledger.kept, ledger.duplicates⟩

end Ledger

/-! ## Sections -/

/-- The number of fields that a section declares. -/
def Section.fieldCount (part : Section) : Nat :=
  (part.elements.flatMap Element.fields).length

/-- The event that ends the collection of a section. -/
def Section.collectedEvent (kind : CollectionKind) (scope : String) (part : Section) : Event :=
  match kind with
  | .fields => .sectionFields part.name scope part.fieldCount
  | .expressions kind => .sectionExpressions part.name scope kind part.elements.length

/-- Takes the entries of a section into a ledger. -/
def Section.collectInto (kind : CollectionKind) (scope : String) (ledger : Ledger)
    (part : Section) : Ledger :=
  ((part.entries kind scope).foldl Ledger.record ledger).note [part.collectedEvent kind scope]

/-- Collects a section that is resolved in a scope. -/
def Section.collect (kind : CollectionKind) (scope : String) (part : Section) : Ledger :=
  part.collectInto kind scope .empty

/-! ## Modules -/

/-- Takes the entries of a module into a ledger. The event at the end counts the
duplicates that this module adds. -/
def Module.collectInto (kind : CollectionKind) (scope : String) (ledger : Ledger)
    (module : Module) : Ledger :=
  let inner := module.fullName scope
  let filled := module.sections.foldl (Section.collectInto kind inner) ledger
  filled.note [.moduleCollected module.name inner kind module.sections.length
    (filled.duplicates.size - ledger.duplicates.size)]

/-- Collects a module that is resolved in a scope. -/
def Module.collect (kind : CollectionKind) (scope : String) (module : Module) : Ledger :=
  module.collectInto kind scope .empty

/-! ## Packages -/

/-- Collects a package. -/
def Package.collect (kind : CollectionKind) (package : Package) : Ledger :=
  let filled := package.modules.foldl (Module.collectInto kind package.name.text) .empty
  filled.note [.packageCollected package.name kind package.modules.length filled.kept.size]

end DeviceConfig
