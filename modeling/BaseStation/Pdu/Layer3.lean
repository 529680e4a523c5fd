import BaseStation.Pdu.Error

/-!
The first two octets of a layer 3 message (3GPP TS 24.007 and TS 44.018): protocol discriminator
and message type.
-/

namespace BaseStation.Layer3

inductive Pdisc where
  | cc
  | mm
  | rr
  | gmm
  | sms
  | sm
  | ss
deriving DecidableEq, Repr

namespace Pdisc

def code : Pdisc → UInt8
  | cc => 0x03
  | mm => 0x05
  | rr => 0x06
  | gmm => 0x08
  | sms => 0x09
  | sm => 0x0a
  | ss => 0x0b

def all : List Pdisc := [cc, mm, rr, gmm, sms, sm, ss]

def ofCode? (x : UInt8) : Option Pdisc := all.find? (·.code == x)

end Pdisc

/-- Radio resource messages that matter for ciphering (3GPP TS 44.018, 10.4). -/
inductive RrMessage where
  | cipheringModeComplete
  | cipheringModeCommand
  | assignmentCommand
  | handoverCommand
  | channelRelease
deriving DecidableEq, Repr

namespace RrMessage

/-- The message type, six bits. -/
def code : RrMessage → UInt8
  | cipheringModeComplete => 0x32
  | cipheringModeCommand => 0x35
  | assignmentCommand => 0x2e
  | handoverCommand => 0x2b
  | channelRelease => 0x0d

def all : List RrMessage :=
  [cipheringModeComplete, cipheringModeCommand, assignmentCommand, handoverCommand, channelRelease]

def ofCode? (x : UInt8) : Option RrMessage := all.find? (·.code == x)

def name : RrMessage → String
  | cipheringModeComplete => "CIPHERING MODE COMPLETE"
  | cipheringModeCommand => "CIPHERING MODE COMMAND"
  | assignmentCommand => "ASSIGNMENT COMMAND"
  | handoverCommand => "HANDOVER COMMAND"
  | channelRelease => "CHANNEL RELEASE"

end RrMessage

/-- Protocol discriminator and message type; the send sequence number above the type is left
out. -/
structure Header where
  pdisc : UInt8
  msgType : UInt8
deriving DecidableEq

namespace Header

def parse (xs : List UInt8) : Except PduError Header := do
  let p ← octetAt xs 0 "pdisc"
  let t ← octetAt xs 1 "msg_type"
  return ⟨p &&& 0x0f, t &&& 0x3f⟩

def isRr (h : Header) : Bool := h.pdisc == Pdisc.code .rr

/-- Accepts exactly the headers of the radio resource message `m`. -/
def expectRr (h : Header) (m : RrMessage) : Except PduError Unit :=
  if !h.isRr then .error (.invalidValue "pdisc" h.pdisc.toNat)
  else if h.msgType = m.code then .ok ()
  else .error (.invalidType m.code.toNat h.msgType.toNat)

end Header
end BaseStation.Layer3
