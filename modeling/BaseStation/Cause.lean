/-!
Causes at the radio signalling interface (3GPP TS 48.058, 9.3.26).
-/

namespace BaseStation

inductive RslCause where
  | radioInterfaceFailure
  | radioLinkFailure
  | handoverAccessFailure
  | normalUnspecified
  | equipmentFailure
  | resourceUnavailable
  | serviceUnavailable
  | serviceUnimplemented
deriving DecidableEq, Repr

namespace RslCause

def code : RslCause → UInt8
  | radioInterfaceFailure => 0x00
  | radioLinkFailure => 0x01
  | handoverAccessFailure => 0x02
  | normalUnspecified => 0x0f
  | equipmentFailure => 0x20
  | resourceUnavailable => 0x21
  | serviceUnavailable => 0x3f
  | serviceUnimplemented => 0x4f

def all : List RslCause :=
  [radioInterfaceFailure, radioLinkFailure, handoverAccessFailure, normalUnspecified,
    equipmentFailure, resourceUnavailable, serviceUnavailable, serviceUnimplemented]

def ofCode? (x : UInt8) : Option RslCause := all.find? (·.code == x)

def text : RslCause → String
  | radioInterfaceFailure => "radio interface failure"
  | radioLinkFailure => "radio link failure"
  | handoverAccessFailure => "handover access failure"
  | normalUnspecified => "normal event, unspecified"
  | equipmentFailure => "equipment failure"
  | resourceUnavailable => "radio resource not available"
  | serviceUnavailable => "service or option not available"
  | serviceUnimplemented => "service or option not implemented"

end RslCause
end BaseStation
