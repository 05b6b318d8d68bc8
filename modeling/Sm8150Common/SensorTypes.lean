/-! # What the sensors HAL passes around

The HIDL types of the sensors interface, with the fields the proxy reads.  A
sensor handle is an `int32_t`; a sensor type is an open enumeration (vendors add
values), kept as its number.  The payload of an event is a union, of which the
proxy touches three members; readings are taken as exact numbers. -/
namespace SensorsHal

/-- `int32_t sensorHandle`. -/
abbrev SensorHandle := BitVec 32

/-- The underlying number of a `SensorType`. -/
abbrev SensorType := Int

namespace SensorType

def LIGHT : SensorType := 5
def DYNAMIC_SENSOR_META : SensorType := 32
def ADDITIONAL_INFO : SensorType := 33

end SensorType

/-- The vendor type of the light sensor below the display (`AlsCorrection.h`). -/
def SENSOR_TYPE_QTI_WISE_LIGHT : SensorType := 33171103

namespace SensorFlagBits

/-- The bits of `SensorInfo::flags` the proxy looks at. -/
def WAKE_UP : BitVec 32 := 1#32
def MASK_DIRECT_REPORT : BitVec 32 := 0x380#32
def MASK_DIRECT_CHANNEL : BitVec 32 := 0xC00#32

end SensorFlagBits

inductive Result
  | OK
  | PERMISSION_DENIED
  | NO_MEMORY
  | BAD_VALUE
  | INVALID_OPERATION
  deriving DecidableEq, Repr

inductive OperationMode
  | NORMAL
  | DATA_INJECTION
  deriving DecidableEq, Repr

/-- The members of `SensorInfo` that the proxy reads. -/
structure SensorInfo where
  sensorHandle : SensorHandle
  type : SensorType
  flags : BitVec 32
  deriving DecidableEq, Repr

/-- The entry `std::map::operator[]` makes up for an absent handle. -/
instance : Inhabited SensorInfo := ⟨⟨0#32, 0, 0#32⟩⟩

def SensorInfo.isWakeup (sensor : SensorInfo) : Bool :=
  sensor.flags &&& SensorFlagBits.WAKE_UP != 0#32

/-- The members of the payload union: `u.scalar` (which is `u.data[0]`),
`u.data[2]` and `u.dynamic.sensorHandle`. -/
structure EventPayload where
  scalar : Rat
  data2 : Rat
  dynamicSensorHandle : SensorHandle
  deriving DecidableEq, Repr

/-- The members of `Event` that the proxy reads. -/
structure Event where
  sensorHandle : SensorHandle
  sensorType : SensorType
  u : EventPayload
  deriving DecidableEq, Repr

end SensorsHal
