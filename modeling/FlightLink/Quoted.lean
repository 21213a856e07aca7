import FlightLink.Quoted.Invisible

/-! Quoted text in diagnostic renderings. Text stands between double quotes;
quotes, backslashes and characters without a shape of their own are escaped. -/

namespace FlightLink.Quoted

def hexDigits (number : Nat) : List Char :=
  Nat.toDigits 16 number

def escape (char : Char) : List Char :=
  if char = '"' then ['\\', '"']
  else if char = '\\' then ['\\', '\\']
  else if char = '\n' then ['\\', 'n']
  else if char = '\r' then ['\\', 'r']
  else if char = '\t' then ['\\', 't']
  else if char.toNat = 0 then ['\\', '0']
  else if invisible char then
    ['\\', 'u', '\x7b'] ++ hexDigits char.toNat ++ ['\x7d']
  else [char]

def encode (text : String) : String :=
  String.ofList ('"' :: (text.toList.flatMap escape ++ ['"']))

end FlightLink.Quoted
