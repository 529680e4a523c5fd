import BaseStation.Lchan.Basic
import BaseStation.Pdu.Lapdm
import BaseStation.Pdu.Layer3

/-!
How ciphering starts. The base station recognises the CIPHERING MODE COMMAND in a downlink block
and has the uplink deciphered; once the mobile station acknowledges the command in its first
information frame, the downlink is ciphered too.
-/

namespace BaseStation

/-- Octets of a frame up to the message type. -/
def cipherCommandLength : Nat := Lapdm.l3Offset + 2

/-- The frame is a SAPI 0 command of the network with a CIPHERING MODE COMMAND. -/
def isCipheringModeCommand (xs : List UInt8) : Bool :=
  if xs.length < cipherCommandLength || xs.head? != some Lapdm.Address.networkCommand then false
  else match Layer3.Header.parse (xs.drop Lapdm.l3Offset) with
    | .ok h => (h.expectRr .cipheringModeCommand).toBool
    | .error _ => false

namespace Lchan

/-- Looks at a block for the main link. A CIPHERING MODE COMMAND sets the awaited acknowledgement
and asks for deciphering of the uplink. -/
def checkDownlink (l : Lchan) (chanNr : UInt8) (xs : List UInt8) : Lchan × Option CipherRequest :=
  if (l.cipher = .none ∨ l.cipher = .rxRequested) ∧ isCipheringModeCommand xs = true then
    let ns := (xs.getD 1 0 >>> 1) &&& 0x07
    ({ l with cipherNs := (ns + 1) % 8, cipher := .rxRequested }, some ⟨chanNr, false, true⟩)
  else (l, none)

/-- Takes the confirm of a ciphering request, and tells whether ciphering came further by it. -/
def confirmCipher (l : Lchan) (c : CipherConfirm) : Lchan × Bool :=
  if l.cipher = .rxRequested ∧ c.uplink = true ∧ c.cause = 0 then
    ({ l with cipher := .rxConfirmed }, true)
  else (l, false)

/-- The frame is a SAPI 0 response of the mobile station with an information frame that
acknowledges by the receive number `nr`. -/
def acknowledges (nr : UInt8) : List UInt8 → Bool
  | a :: c :: _ => a == Lapdm.Address.mobileResponse && c &&& 0x01 == 0 && c >>> 5 == nr
  | _ => false

/-- Looks at an uplink frame. The first one that acknowledges the command asks for ciphering of
the downlink. -/
def checkUplink (l : Lchan) (chanNr : UInt8) (xs : List UInt8) : Lchan × Option CipherRequest :=
  if l.cipher = .rxConfirmed ∧ acknowledges l.cipherNs xs = true then
    ({ l with cipher := .txEnabled }, some ⟨chanNr, true, false⟩)
  else (l, none)

end Lchan
end BaseStation
