import FlightLink.Code
import FlightLink.WireInteger

/-! Accelerometer and gyro readings in SI units. -/

namespace FlightLink

/-- Three axes. -/
structure Triple where
  x : Float32
  y : Float32
  z : Float32

namespace Triple

def zero : Triple := ⟨0, 0, 0⟩

def text (triple : Triple) : String :=
  let axis := Decimal.text Decimal.diagnostic
  s!"[{axis triple.x}, {axis triple.y}, {axis triple.z}]"

end Triple

structure Imu where
  /-- In m/s². -/
  acceleration : Triple
  /-- In rad/s. -/
  rate : Triple

namespace Imu

def initial : Imu := ⟨.zero, .zero⟩

/-- One g is 512 steps at a full range of 8 g. -/
def accelerationScale : Float32 := 9.80665 * (8.0 / 4096.0)

/-- The single nearest to pi. -/
def pi : Float32 := .ofBits 0x40490FDB

/-- Gyro steps to rad/s. -/
def rateScale : Float32 := pi / 180.0 / (2000.0 / 16.4)

/-- Accelerometer, gyro and magnetometer, three 16-bit values each. The
magnetometer is not read. -/
def payloadSize : Nat := 18

def triple (payload : Bytes) (offset : Nat) (scale : Float32) : Except Fault Triple := do
  let x ← WireInteger.i16.decodeSingle payload offset scale
  let y ← WireInteger.i16.decodeSingle payload (offset + 2) scale
  let z ← WireInteger.i16.decodeSingle payload (offset + 4) scale
  return ⟨x, y, z⟩

def decode (payload : Bytes) : Except Fault Imu := do
  if payload.length < payloadSize then
    throw (.shortBuffer payloadSize 0 payload.length)
  let acceleration ← triple payload 0 accelerationScale
  let rate ← triple payload 6 rateScale
  return ⟨acceleration, rate⟩

def text (imu : Imu) : String :=
  s!"Acceleration: {imu.acceleration.text} m/s^2, Angular velocity: {imu.rate.text} rad/s"

end Imu
end FlightLink
