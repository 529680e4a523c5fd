/-!
Why octets are not a protocol data unit.
-/

namespace BaseStation

inductive PduError where
  /-- The octets end before the named field. -/
  | bufferEnded (field : String)
  | invalidType (expected found : Nat)
  | invalidValue (field : String) (value : Nat)
  | inconsistentLength (expected found : Nat)
deriving DecidableEq

def PduError.message : PduError → String
  | bufferEnded field => "buffer ended while reading Some(\"" ++ field ++ "\")"
  | invalidType expected found =>
    "invalid PDU type: expected " ++ toString expected ++ ", found " ++ toString found
  | invalidValue field value => "invalid value " ++ toString value ++ " for field " ++ field
  | inconsistentLength expected found =>
    "inconsistent length: expected " ++ toString expected ++ ", found " ++ toString found

/-- The octet at place `i`, which holds the named field. -/
def octetAt (xs : List UInt8) (i : Nat) (field : String) : Except PduError UInt8 :=
  match xs[i]? with
  | some x => .ok x
  | none => .error (.bufferEnded field)

end BaseStation
