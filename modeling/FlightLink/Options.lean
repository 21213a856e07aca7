import FlightLink.Log
import FlightLink.Quoted

/-! How a connection is set up. -/

namespace FlightLink

structure Options where
  baud : Nat
  version : Version
  level : Log.Level
  /-- Upper bound of every read. -/
  readTimeout : Duration
  /-- Delay between attempts while the connection is set up. -/
  retryInterval : Duration
  deriving DecidableEq, Repr

namespace Options

def default : Options :=
  { baud := 115200
    version := .v1
    level := .full
    readTimeout := .ofMillis 100
    retryInterval := .ofMillis 1000 }

/-- The diagnostic rendering. -/
def text (options : Options) : String :=
  "InterfaceOptions \x7b " ++
    s!"baud_rate: {options.baud}, version: {options.version.label}, " ++
    s!"log_level: {options.level.label}, read_timeout: {options.readTimeout.text}, " ++
    s!"retry_interval: {options.retryInterval.text}" ++ " \x7d"

end Options

/-- How a serial port is opened. -/
structure PortSettings where
  path : String
  baud : Nat
  /-- Upper bound of every read. -/
  timeout : Duration
  deriving DecidableEq, Repr

/-- The diagnostic rendering of an open port. -/
def PortSettings.text (port : PortSettings) : String :=
  "TokioSerialPort \x7b " ++ s!"name: {Quoted.encode port.path}, baud_rate: {port.baud}, " ++
    s!"timeout: {port.timeout.text}, .." ++ " \x7d"

def Options.port (options : Options) (path : String) : PortSettings :=
  ⟨path, options.baud, options.readTimeout⟩

end FlightLink
