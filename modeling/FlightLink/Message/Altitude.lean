import FlightLink.Code
import FlightLink.WireInteger

/-! Estimated altitude. The climb rate that follows it in most payloads is not
read. -/

namespace FlightLink

structure Altitude where
  metres : Float32

namespace Altitude

def initial : Altitude := ⟨0⟩

/-- Centimetres to metres. -/
def scale : Float32 := 0.01

def decode (payload : Bytes) : Except Fault Altitude := do
  let metres ← WireInteger.i32.decodeSingle payload 0 scale
  return ⟨metres⟩

def text (altitude : Altitude) : String :=
  s!"Altitude: {Decimal.text Decimal.plain altitude.metres} m"

end Altitude
end FlightLink
