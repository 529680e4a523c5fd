import BaseStation.Channel.Number
import BaseStation.Config.Basic
import BaseStation.Phy.Link
import BaseStation.Time

/-!
A radio within the program. It confirms each request at once, and from a frame number it makes a
coarse schedule of transmit opportunities in which each configured channel has its turn.
-/

namespace BaseStation

/-- The configured timeslots, the primitives that wait to be sent up with their carriers, and
what was counted: blocks and voice frames to transmit, and torn down timeslots. -/
structure VirtualPhy where
  slots : List (Vector Pchan numSlots)
  pending : List (UInt8 × Prim)
  numTx : Nat
  numDisconnects : Nat
deriving DecidableEq

namespace VirtualPhy

def ofConfig (c : Config) : VirtualPhy := ⟨c.carriers.map (·.slots), [], 0, 0⟩

/-! ### The schedule -/

/-- Frames of the traffic multiframe that start a block of a traffic channel. -/
def tchBlockStarts : List Nat := [0, 4, 8, 13, 17, 21]

/-- The frame of the traffic multiframe that carries the associated control channel. -/
def tchSacchFrame : Nat := 12

/-- The frame of the control multiframe that starts the broadcast block. -/
def bcchFrame : Nat := 2

/-- The channel number of a subslot of a kind. -/
def number (kind : ChanKind) (ss tn : UInt8) : UInt8 := kind.base ||| ss <<< 3 ||| tn

/-- The opportunity of a control channel. -/
def poll (chanNr linkId : UInt8) (fn : UInt32) : Prim := .phRtsInd ⟨chanNr, linkId, fn⟩

/-- The opportunities of a traffic channel: a block and a voice frame. -/
def pollTraffic (chanNr : UInt8) (fn : UInt32) : List Prim :=
  [poll chanNr 0 fn, .tchRtsInd ⟨chanNr, fn⟩]

/-- One opportunity for each of the first `n` subslots. -/
def pollSubslots (kind : ChanKind) (n : Nat) (tn : UInt8) (fn : UInt32) : List Prim :=
  (List.range n).map fun ss => poll (number kind ss.toUInt8 tn) 0 fn

/-- The frame starts a common control block. -/
def startsCcchBlock (fn : UInt32) : Bool :=
  (ccchBlock? fn.toNat).isSome && ccchBlock? (fn - 1).toNat != ccchBlock? fn.toNat

/-- The opportunities of the common control channel. -/
def pollCommon (tn : UInt8) (fn : UInt32) : List Prim :=
  if fn.toNat % controlMultiframe = bcchFrame then [poll (number .bcch 0 tn) 0 fn]
  else if startsCcchBlock fn then [poll (number .pchAgch 0 tn) 0 fn]
  else []

/-- What the radio sends up for a timeslot in frame `fn`. -/
def slotSchedule (p : Pchan) (tn : UInt8) (fn : UInt32) : List Prim :=
  let fn26 := fn.toNat % trafficMultiframe
  let fn51 := fn.toNat % controlMultiframe
  match p with
  | .none => []
  | .ccch => pollCommon tn fn
  | .ccchSdcch4 => pollCommon tn fn ++ if fn51 = 0 then pollSubslots .sdcch4 4 tn fn else []
  | .sdcch8 => if fn51 = 0 then pollSubslots .sdcch8 8 tn fn else []
  | .tchF | .tchFPdch | .tchFTchHPdch =>
    let chanNr := number .tchF 0 tn
    if fn26 ∈ tchBlockStarts then pollTraffic chanNr fn
    else if fn26 = tchSacchFrame then [poll chanNr sacchLink fn]
    else []
  | .tchH =>
    if fn26 ∈ tchBlockStarts then pollTraffic (number .tchH (fn26 % 2).toUInt8 tn) fn else []
  | .pdch => if fn.toNat % 4 = 0 then [poll (number .pdch 0 tn) 0 fn] else []

/-- What the radio sends up for a carrier in frame `fn`. -/
def carrierSchedule (trx : UInt8) (slots : Vector Pchan numSlots) (fn : UInt32) :
    List (UInt8 × Prim) :=
  (slots.toList.mapIdx fun tn p => slotSchedule p tn.toUInt8 fn).flatten.map fun p => (trx, p)

/-- What the radio sends up in frame `fn`: the time on the primary carrier, then the transmit
opportunities of all carriers. -/
def frameIndications (v : VirtualPhy) (fn : UInt32) : List (UInt8 × Prim) :=
  (0, .mphInfoInd (.time fn)) ::
    (v.slots.mapIdx fun trx slots => carrierSchedule trx.toUInt8 slots fn).flatten

/-! ### Requests -/

/-- The confirm of a request, where it has one. -/
def confirm? : MphInfo → Option MphInfo
  | .activateReq r => some (.activateCnf ⟨r.chanNr, 0⟩)
  | .deactivateReq r => some (.deactivateCnf ⟨r.chanNr, 0⟩)
  | .cipherReq r => some (.cipherCnf ⟨r.chanNr, r.downlink, r.uplink, 0⟩)
  | _ => none

/-- Adds what is sent up later. -/
def queueUp (v : VirtualPhy) (trx : UInt8) (p : Prim) : VirtualPhy :=
  { v with pending := v.pending ++ [(trx, p)] }

/-- What the radio does with a primitive. -/
def down (trx : UInt8) (p : Prim) (v : VirtualPhy) : Except PhyError Unit × VirtualPhy :=
  if v.slots.length ≤ trx.toNat then (.error .notConnected, v)
  else match p with
    | .phDataReq _ | .tchReq _ => (.ok (), { v with numTx := v.numTx + 1 })
    | .mphInfoReq (.modifyReq _) => (.ok (), v)
    | .mphInfoReq i =>
      match confirm? i with
      | some c => (.ok (), v.queueUp trx (.mphInfoCnf c))
      | none => (.error (.unsupported p.text), v)
    | p => (.error (.unsupported p.text), v)

/-- What waits to be sent up, and the radio without it. -/
def takePending (v : VirtualPhy) : List (UInt8 × Prim) × VirtualPhy :=
  (v.pending, { v with pending := [] })

def link : PhyLink VirtualPhy where
  down := down
  disconnect _ _ v := (.ok (), { v with numDisconnects := v.numDisconnects + 1 })
  indications fn v := v.frameIndications fn
  takePending := takePending

end VirtualPhy
end BaseStation
