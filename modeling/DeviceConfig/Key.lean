import DeviceConfig.Model

/-!
# Keys

The key of an element is its name qualified by its section, which is itself qualified
by the scope in which the section is resolved. The key of a field is the key of its
element, a slash and the id of the field.
-/

namespace DeviceConfig

/-- The key of an element of a section that is resolved in a scope. -/
def elementKey (scope : String) (part : SectionName) (element : ElementName) : String :=
  qualify (qualify scope part.text) element.text

/-- The key of a field of the element with the given key. The slash is always there. -/
def fieldKey (elementKey : String) (id : FieldId) : String :=
  elementKey ++ "/" ++ id.text

theorem elementKey_eq_fullName (scope : String) (part : Section) (element : Element) :
    elementKey scope part.name element.name = element.fullName (part.fullName scope) :=
  rfl

end DeviceConfig
