import BaseStation.Channel.Number

/-!
Failure reports for operation and maintenance (3GPP TS 12.21, 9.4.16 and 9.4.43).
-/

namespace BaseStation

inductive AlarmKind where
  /-- A primitive came up that only goes down. -/
  | unknownUp
  /-- The radio refused a primitive as unsupported. -/
  | unknownDown
deriving DecidableEq, Repr

namespace AlarmKind

/-- The event type: a processing failure. -/
def eventType : AlarmKind → UInt8
  | unknownUp | unknownDown => 2

/-- The severity: major. -/
def severity : AlarmKind → UInt8
  | unknownUp | unknownDown => 2

/-- The probable cause, in the range left to the manufacturer. -/
def cause : AlarmKind → UInt16
  | unknownDown => 0x3003
  | unknownUp => 0x3004

def text : AlarmKind → String
  | unknownUp => "unknown L1SAP up message"
  | unknownDown => "unknown L1SAP down message"

end AlarmKind

structure Alarm where
  kind : AlarmKind
  trx : Option UInt8
  lchan : Option LchanId
  detail : Option String
deriving DecidableEq

namespace Alarm

def cause (a : Alarm) : UInt16 := a.kind.cause

def text (a : Alarm) : String :=
  a.kind.text ++ " cause=0x" ++ Text.hex 4 a.cause.toNat ++
    (match a.trx with
      | some trx => " trx=" ++ toString trx.toNat
      | none => "") ++
    (match a.lchan with
      | some id => " lchan=" ++ id.text
      | none => "") ++
    match a.detail with
      | some detail => ": " ++ detail
      | none => ""

end Alarm
end BaseStation
