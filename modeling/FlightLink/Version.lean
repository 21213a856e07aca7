/-! The two wire formats that share a link: MSPv1 with one-byte code and length,
and MSPv2 with two-byte code and length. -/

namespace FlightLink

/-- A wire format. A link speaks one of them at a time and may change over. -/
inductive Version
  | v1
  | v2
  deriving DecidableEq, Repr, Inhabited

namespace Version

/-- The longest payload that the length field can announce. -/
def maxPayload : Version → Nat
  | v1 => 255
  | v2 => 65535

/-- The byte after the preamble that announces the format: an M or an X. -/
def marker : Version → UInt8
  | v1 => 0x4D
  | v2 => 0x58

def ofMarker? (byte : UInt8) : Option Version :=
  if byte = v1.marker then some v1 else if byte = v2.marker then some v2 else none

def other : Version → Version
  | v1 => v2
  | v2 => v1

def number : Version → Nat
  | v1 => 1
  | v2 => 2

def ofNumber? : Nat → Option Version
  | 1 => some v1
  | 2 => some v2
  | _ => none

/-- Bytes between the marker and the payload. -/
def headerSize : Version → Nat
  | v1 => 3
  | v2 => 6

def text : Version → String
  | v1 => "MSPv1"
  | v2 => "MSPv2"

/-- The short name used in diagnostic renderings. -/
def label : Version → String
  | v1 => "V1"
  | v2 => "V2"

@[simp] theorem ofMarker?_marker (version : Version) : ofMarker? version.marker = some version := by
  cases version <;> rfl

@[simp] theorem ofNumber?_number (version : Version) : ofNumber? version.number = some version := by
  cases version <;> rfl

theorem ofMarker?_eq_some_iff {byte : UInt8} {version : Version} :
    ofMarker? byte = some version ↔ byte = version.marker := by
  constructor
  · intro found
    unfold ofMarker? at found
    split at found
    · cases found; assumption
    · split at found
      · cases found; assumption
      · cases found
  · rintro rfl; exact ofMarker?_marker version

end Version
end FlightLink
