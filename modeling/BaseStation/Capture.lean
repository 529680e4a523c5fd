import BaseStation.Channel.Number
import BaseStation.Pdu.Gsmtap
import BaseStation.Primitive
import BaseStation.Time

/-!
Capture of what is on the air: the category of a block, the record made of it, and the filter
that selects records.
-/

namespace BaseStation.Capture

open Gsmtap (Channel)

/-! ### Categories -/

/-- The category of a block on the paging and access grant channel: the first `numAgch` blocks of
a multiframe are for access grants. -/
def pagingCategory (fn numAgch : Nat) : Channel :=
  match ccchBlock? fn with
  | some b => if b < numAgch then .agch else .pch
  | none => .pch

/-- Category and subslot of a channel number on a timeslot in circuit mode. -/
def channelCategory (chanNr : UInt8) (fn numAgch : Nat) : Channel × UInt8 :=
  match ChanAddr.decode chanNr with
  | .ok a =>
    match a.kind with
    | .tchF => (.tchF, 0)
    | .tchH => (.tchH, a.ss.getD 0)
    | .sdcch4 | .sdcch8 => (.sdcch, a.ss.getD 0)
    | .bcch => (.bcch, 0)
    | .pchAgch => (pagingCategory fn numAgch, 0)
    | .rach | .pdch => (.unknown, 0)
  | .error _ => (.unknown, 0)

/-- The category code, with the flag of the associated control channel, and the subslot. -/
def classify (chanNr linkId : UInt8) (fn numAgch : Nat) : UInt8 × UInt8 :=
  let (c, ss) := channelCategory chanNr fn numAgch
  (if isSacchLink linkId then c.code ||| Gsmtap.acchFlag else c.code, ss)

/-! ### Records -/

structure Record where
  arfcn : UInt16
  tn : UInt8
  category : UInt8
  ss : UInt8
  fn : UInt32
  payload : List UInt8
deriving DecidableEq

namespace Record

def signal : Int8 := 0

def snr : Int8 := 0

def header (r : Record) : Gsmtap.Header :=
  ⟨r.tn, r.arfcn, signal, snr, r.fn, r.category, 0, r.ss⟩

def datagram (r : Record) : List UInt8 := r.header.encapsulate r.payload

end Record

/-- The first octet of an uplink packet timing block that holds an access burst. -/
def ptcchAccess : UInt8 := 7

/-- The captured octets of a packet block: an uplink timing block goes without its first octet,
and one with an access burst is left out. -/
def packetPayload? (uplink ptcch : Bool) (xs : List UInt8) : Option (List UInt8) :=
  if uplink && ptcch then if xs.head? = some ptcchAccess then none else some xs.tail else some xs

/-- The carrier number of a record. -/
def recordArfcn (arfcn : UInt16) (uplink : Bool) : UInt16 :=
  if uplink then arfcn ||| Gsmtap.uplinkFlag else arfcn

/-- The record of a block. A block without octets has none. -/
def dataRecord? (d : PhData) (arfcn : UInt16) (pdch : Bool) (numAgch : Nat) (uplink : Bool) :
    Option Record :=
  let fn := d.fn.toNat
  let ptcch := isPtcch fn
  let (category, ss) :=
    if pdch then
      if ptcch then (Channel.code .ptcch, (ptcchBlock fn).toUInt8) else (Channel.code .pacch, 0)
    else classify d.chanNr d.linkId fn numAgch
  match packetPayload? uplink (pdch && ptcch) d.frame.octets with
  | none | some [] => none
  | some payload => some ⟨recordArfcn arfcn uplink, chanTn d.chanNr, category, ss, d.fn, payload⟩

/-- The subslot that a channel number names, 0 if it names none. -/
def subslotOf (chanNr : UInt8) : UInt8 :=
  match ChanAddr.decode chanNr with
  | .ok a => a.ss.getD 0
  | .error _ => 0

/-- The record of an access burst, whose payload is the access code. -/
def rachRecord (p : PhRach) (arfcn : UInt16) : Record :=
  ⟨recordArfcn arfcn true, chanTn p.chanNr, Channel.code .rach, subslotOf p.chanNr, p.fn,
    [p.ra.toUInt8]⟩

/-! ### Filter -/

/-- The categories to capture, one bit each, and whether to capture associated control
channels. -/
structure Filter where
  mask : UInt32
  acch : Bool
deriving DecidableEq

namespace Filter

def empty : Filter := ⟨0, false⟩

def passes (f : Filter) (category : UInt8) : Bool :=
  if category &&& Gsmtap.acchFlag != 0 then f.acch else f.mask &&& Gsmtap.maskBit category != 0

/-- The filter with one more name selected, if the name is known. -/
def select? (f : Filter) (name : String) : Option Filter :=
  if Gsmtap.sameName name Gsmtap.acchName then some { f with acch := true }
  else (Channel.ofName? name).map fun c => { f with mask := f.mask ||| Gsmtap.maskBit c.code }

/-- The filter of a list of names, or the first name that is not known. -/
def ofNames (names : List String) : Except String Filter :=
  names.foldlM (fun f name =>
    match f.select? name with
    | some f => .ok f
    | none => .error name) empty

end Filter
end BaseStation.Capture
