import DeviceConfig.Collection.Ledger

/-!
# Compilation

A module or package is compiled in three passes, which collect its fields, its install
commands and its uninstall commands. It compiles if no pass meets a duplicate key;
otherwise the error carries what each pass kept and the duplicates it met.
-/

namespace DeviceConfig

/-- The three maps of a compilation. -/
structure CommandSet where
  fields : KeyMap
  install : KeyMap
  uninstall : KeyMap

/-- A failed compilation. -/
structure CompileError where
  kept : CommandSet
  fieldDuplicates : DuplicateKeys
  installDuplicates : DuplicateKeys
  uninstallDuplicates : DuplicateKeys

namespace CompileError

/-- The first duplicate of the first pass that met one. -/
def first? (error : CompileError) : Option DuplicateKey :=
  error.fieldDuplicates.first?
    <|> error.installDuplicates.first?
    <|> error.uninstallDuplicates.first?

/-- The passes that met duplicates, each with their list. -/
def failedPasses (error : CompileError) : List (String × DuplicateKeys) :=
  [("field", error.fieldDuplicates), ("install", error.installDuplicates),
    ("uninstall", error.uninstallDuplicates)].filter fun pass => !pass.2.isEmpty

def message (error : CompileError) : String :=
  "compilation failed with duplicate keys - " ++
    "; ".intercalate (error.failedPasses.map fun (pass, duplicates) =>
      pass ++ " pass: " ++ duplicates.message)

end CompileError

/-- The outcome of compiling a unit and all that was logged on the way. -/
structure Compilation where
  result : Except CompileError CommandSet
  log : List Event

/-- The three maps, complete or as far as they were kept. -/
def Compilation.kept (compilation : Compilation) : CommandSet :=
  match compilation.result with
  | .ok set => set
  | .error error => error.kept

/-- The outcome of three passes over a unit: a set if none of them met a duplicate. One
final event follows the events of the passes. -/
def compilePasses (unit : String) (pass : CollectionKind → Ledger) : Compilation :=
  let fields := pass .fields
  let install := pass (.expressions .install)
  let uninstall := pass (.expressions .uninstall)
  let log := fields.log ++ install.log ++ uninstall.log
  let set : CommandSet := ⟨fields.kept, install.kept, uninstall.kept⟩
  if fields.duplicates.isEmpty && install.duplicates.isEmpty && uninstall.duplicates.isEmpty then
    { result := .ok set
      log := log ++ [.compiled unit set.fields.size set.install.size set.uninstall.size] }
  else
    { result := .error ⟨set, fields.duplicates, install.duplicates, uninstall.duplicates⟩
      log := log ++ [.compilationFailed unit fields.duplicates.size install.duplicates.size
        uninstall.duplicates.size] }

/-- Compiles a module that is resolved in a scope. -/
def Module.compile (scope : String) (module : Module) : Compilation :=
  compilePasses (module.fullName scope) fun kind => module.collect kind scope

/-- Compiles a package. -/
def Package.compile (package : Package) : Compilation :=
  compilePasses package.name.text fun kind => package.collect kind

end DeviceConfig
