/-!
# Names

Every part of a package is addressed by a name. Names of different kinds are kept
apart by their types; all of them are plain texts, ordered character by character.
A qualified name joins a name onto the scope it is declared in.
-/

namespace DeviceConfig

/-- What a name names. -/
inductive NameKind where
  | fieldId
  | elementName
  | sectionName
  | moduleName
  | packageName
  deriving DecidableEq, Repr

/-- A name of one kind: any text, the empty one included. -/
structure Name (kind : NameKind) where
  text : String
  deriving DecidableEq, Repr

/-- The id of a field, unique on its element. -/
abbrev FieldId := Name .fieldId

/-- The name of an element. -/
abbrev ElementName := Name .elementName

/-- The name of a section. -/
abbrev SectionName := Name .sectionName

/-- The name of a module. -/
abbrev ModuleName := Name .moduleName

/-- The name of a package. -/
abbrev PackageName := Name .packageName

namespace Name

variable {kind : NameKind}

instance : ToString (Name kind) := ⟨text⟩

/-- The length of a name in UTF-8 bytes. -/
def byteSize (name : Name kind) : Nat :=
  name.text.utf8ByteSize

/-- Names are ordered by their first differing character. The order of UTF-8 bytes is
the same, since a larger character has the larger encoding. -/
instance : Ord (Name kind) := ⟨fun a b => compare a.text b.text⟩

theorem eq_of_toList_eq {a b : Name kind} (h : a.text.toList = b.text.toList) : a = b := by
  cases a
  cases b
  exact congrArg Name.mk (String.toList_inj.mp h)

end Name

/-! ## Qualified names -/

/-- Joins a name onto the scope that declares it, with a dot between them. The empty
scope leaves the name as it is. -/
def qualify (scope name : String) : String :=
  if scope = "" then name else scope ++ "." ++ name

@[simp] theorem qualify_empty (name : String) : qualify "" name = name := by
  simp [qualify]

theorem qualify_of_ne {scope : String} (name : String) (h : scope ≠ "") :
    qualify scope name = scope ++ "." ++ name := by
  simp [qualify, h]

end DeviceConfig
