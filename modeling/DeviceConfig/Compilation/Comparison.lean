import DeviceConfig.Compilation

/-!
# Comparing compilations

Two packages are compared as models and by what they compile to. Maps are compared
without regard to the order of their entries, lists of duplicates with it.
-/

namespace DeviceConfig

/-- Whether two sets hold the same maps. -/
def CommandSet.same (a b : CommandSet) : Bool :=
  a.fields.same b.fields && a.install.same b.install && a.uninstall.same b.uninstall

/-- Whether two errors kept the same maps and met the same duplicates in the same order. -/
def CompileError.same (a b : CompileError) : Bool :=
  a.kept.same b.kept && a.fieldDuplicates == b.fieldDuplicates &&
    a.installDuplicates == b.installDuplicates && a.uninstallDuplicates == b.uninstallDuplicates

/-- Whether two compilations have the same outcome. -/
def Compilation.sameResult (a b : Compilation) : Bool :=
  match a.result, b.result with
  | .ok a, .ok b => a.same b
  | .error a, .error b => a.same b
  | _, _ => false

end DeviceConfig
