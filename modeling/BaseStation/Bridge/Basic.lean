import BaseStation.Bridge.Control
import BaseStation.Bridge.Uplink

/-!
The inputs of the layer 1 access point: primitives from the radio, and requests of the parties
above.
-/

namespace BaseStation.Bridge

/-- A block that the packet control unit has for the downlink. -/
structure PacketRequest where
  trx : UInt8
  tn : UInt8
  ptcch : Bool
  fn : UInt32
  arfcn : UInt16
  block : UInt8
  data : List UInt8
deriving DecidableEq

/-- What can come in. -/
inductive Input where
  | up (trx : UInt8) (p : Prim)
  | down (trx : UInt8) (p : Prim)
  /-- RSL activates a channel, with the training sequence it asks for. -/
  | chanAct (trx chanNr : UInt8) (tsc : Option UInt8)
  | chanRel (trx chanNr : UInt8)
  | chanDeactSacch (trx chanNr : UInt8)
  | chanModify (trx chanNr : UInt8)
  /-- RSL switches a timeslot into or out of packet mode. -/
  | pdchSwitch (trx tn : UInt8) (toPdch : Bool)
  | packetReq (r : PacketRequest)
  | voiceRx (id : LchanId) (f : VoiceFrame)
deriving DecidableEq

variable {σ φ : Type} (site : Site σ φ)

/-- Reports a primitive that came up though it only goes down. -/
def unknownUp (trx : UInt8) (p : Prim) : Act σ φ Unit := do
  tell site (.alarm ⟨.unknownUp, some trx, none, some ("unknown L1SAP up primitive " ++
    toString p.type.code.toNat ++ " op " ++ toString p.op.code.toNat)⟩)
  refuse (.unknownPrimitive p.type.code p.op.code)

/-- Takes a primitive from the radio of a carrier. Management payloads that have no handler for
their operation are left out. -/
def up (trx : UInt8) (p : Prim) : Act σ φ Unit :=
  match p with
  | .mphInfoInd (.time fn) => timeInd site trx fn
  | .mphInfoInd (.measured m) => measInd site trx m
  | .mphInfoCnf (.activateCnf c) => activateCnf site trx c
  | .mphInfoCnf (.deactivateCnf c) => deactivateCnf site trx c
  | .mphInfoCnf (.cipherCnf c) => cipherCnf trx c
  | .mphInfoInd _ | .mphInfoCnf _ => pure ()
  | .phRtsInd r => rtsInd site trx r
  | .tchRtsInd r => tchRtsInd site trx r
  | .phDataInd d => do
    modify (·.captureData site trx d true)
    dataInd site trx d
  | .tchInd t => tchInd site trx t
  | .phRachInd r => do
    modify (·.captureRach trx r)
    rachInd site trx r
  | .phDataReq _ | .tchReq _ | .mphInfoReq _ => unknownUp site trx p

def packetReq (r : PacketRequest) : Act σ φ Unit :=
  down site r.trx
    (.phDataReq (.request (ChanKind.base .tchF ||| r.tn) 0 r.fn (.ofL2 r.data)))

/-- Queues a voice frame for the downlink of a channel, unless a loopback has the queue. -/
def World.receiveVoice (w : World σ φ) (id : LchanId) (f : VoiceFrame) : World σ φ :=
  w.modifyLchan id fun l => if l.loopback then l else { l with queue := (l.queue.push f).1 }

def perform : Input → Act σ φ Unit
  | .up trx p => up site trx p
  | .down trx p => Bridge.down site trx p
  | .chanAct trx chanNr tsc => chanAct site trx chanNr tsc
  | .chanRel trx chanNr => chanRel site trx chanNr
  | .chanDeactSacch trx chanNr => chanDeactSacch site trx chanNr
  | .chanModify trx chanNr => chanModify site trx chanNr
  | .pdchSwitch trx tn toPdch => pdchSwitch site trx tn toPdch
  | .packetReq r => packetReq site r
  | .voiceRx id f => modify (·.receiveVoice id f)

/-- The result and the state after an input. -/
def step (input : Input) (w : World σ φ) : Except Failure Unit × World σ φ := perform site input w

end BaseStation.Bridge
