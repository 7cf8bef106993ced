import DeviceConfig.Codec.Model
import DeviceConfig.Compilation.Comparison
import DeviceConfig.Compilation.Growth
import DeviceConfig.Proofs.ByteScan
import DeviceConfig.Proofs.CommandPlaceholders
import DeviceConfig.Proofs.Decoding
import DeviceConfig.Proofs.Discipline
import DeviceConfig.Proofs.FieldPath
import DeviceConfig.Proofs.Growth
import DeviceConfig.Proofs.KeyOrder
import DeviceConfig.Proofs.LeftmostLongest
import DeviceConfig.Proofs.Locality
import DeviceConfig.Proofs.Log
import DeviceConfig.Proofs.Merge
import DeviceConfig.Proofs.Outline
import DeviceConfig.Proofs.Reference
import DeviceConfig.Proofs.Relocation
import DeviceConfig.Proofs.Reordering
import DeviceConfig.Proofs.Replacement
import DeviceConfig.Proofs.Reversal
import DeviceConfig.Proofs.RoundTrip
import DeviceConfig.Proofs.SelfReference
