/-! The function codes with a message schema. Any 16-bit code can be sent and
received; these are the ones whose payloads are understood. -/

namespace FlightLink

inductive Code
  | rxMap
  | rawImu
  | rc
  | altitude
  | setRawRc
  deriving DecidableEq, Repr

namespace Code

def number : Code → UInt16
  | rxMap => 64
  | rawImu => 102
  | rc => 105
  | altitude => 109
  | setRawRc => 200

def ofNumber? (number : UInt16) : Option Code :=
  [rxMap, rawImu, rc, altitude, setRawRc].find? (·.number == number)

def name : Code → String
  | rxMap => "MSP_RX_MAP"
  | rawImu => "MSP_RAW_IMU"
  | rc => "MSP_RC"
  | altitude => "MSP_ALTITUDE"
  | setRawRc => "MSP_SET_RAW_RC"

def text (code : Code) : String :=
  s!"{code.name}({code.number})"

/-- The short name used in diagnostic renderings. -/
def label : Code → String
  | rxMap => "RxMap"
  | rawImu => "RawImu"
  | rc => "Rc"
  | altitude => "Altitude"
  | setRawRc => "SetRawRc"

@[simp] theorem ofNumber?_number (code : Code) : ofNumber? code.number = some code := by
  cases code <;> rfl

end Code
end FlightLink
