/-
The device models that templates apply to. A controller may know models
that are not in the list here; their identifiers are kept as they are.
-/
import Sdwan.Json.Codec

namespace Sdwan

open Json

/-- A device model, by its identifier. -/
structure DeviceModel where
  identifier : String
deriving DecidableEq, Repr

namespace DeviceModel

/-- The identifiers that are known. -/
def known : List String :=
  ["vedge-cloud", "vedge-100", "vedge-100-B", "vedge-100-M", "vedge-100-WM", "vedge-1000",
    "vedge-2000", "vedge-5000", "vedge-ISR1100-4G", "vedge-ISR1100-4GLTE", "vedge-ISR1100-6G",
    "vedge-ISR1100X-4G", "vedge-ISR1100X-6G", "vedge-CSR-1000v", "vedge-C8000V",
    "vedge-C8200-1N-4T", "vedge-C8200L-1N-4T", "vedge-C8300-1N1S-4T2X", "vedge-C8300-1N1S-6T",
    "vedge-C8300-2N2S-4T2X", "vedge-C8300-2N2S-6T", "vedge-C8500-12X", "vedge-C8500-12X4QC",
    "vedge-C8500L-8S4X", "vedge-ISR-4321", "vedge-ISR-4331", "vedge-ISR-4351", "vedge-ISR-4431",
    "vedge-ISR-4451-X", "vedge-ISR-4461", "vedge-IR-1101", "vedge-ASR-1001-X",
    "vedge-ASR-1002-X", "vedge-ASR-1001-HX", "vedge-ASR-1002-HX", "vsmart", "vmanage"]

/-- Whether the model is in the list. -/
def isKnown (m : DeviceModel) : Bool := known.contains m.identifier

instance : Coded DeviceModel :=
  ⟨fun m => .string m.identifier, fun o d => (readString o d).map DeviceModel.mk⟩

end DeviceModel

end Sdwan
