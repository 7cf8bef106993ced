import DeviceConfig.Name
import DeviceConfig.Placeholder.Basic
import DeviceConfig.Text.Replace

/-!
# Naming the section in field data

Field data refers to the section that holds it by the placeholder with the content
`prefix`. Expansion puts the bare name of the section there, not its qualified name,
so that a value reads the same wherever its module is placed.
-/

namespace DeviceConfig

/-- The placeholder by which field data refers to its section. -/
def selfReference : List Char :=
  placeholder "prefix".toList

/-- Field data with every reference to its section naming that section. -/
def expandSection (part : SectionName) (data : String) : String :=
  String.ofList (Text.replaceAll selfReference (placeholder part.text.toList) data.toList)

end DeviceConfig
