/-!
What a timeslot is configured to carry, and how the common control channel is laid out.
-/

namespace BaseStation

/-- Physical channel configurations of a timeslot (3GPP TS 45.002). -/
inductive Pchan where
  | none
  | ccch
  | ccchSdcch4
  | tchF
  | tchH
  | sdcch8
  | pdch
  /-- Switches between TCH/F and packet data on request. -/
  | tchFPdch
  /-- Takes the mode of the channel last activated on it. -/
  | tchFTchHPdch
deriving DecidableEq, Repr

namespace Pchan

/-- Dedicated channels of the configuration; a dynamic one has room for its densest mode. -/
def numLchans : Pchan → Nat
  | none => 0
  | ccchSdcch4 => 4
  | sdcch8 => 8
  | tchH | tchFTchHPdch => 2
  | _ => 1

def isDynamic : Pchan → Bool
  | tchFPdch | tchFTchHPdch => true
  | _ => false

def hasCcch : Pchan → Bool
  | ccch | ccchSdcch4 => true
  | _ => false

def name : Pchan → String
  | none => "none"
  | ccch => "ccch"
  | ccchSdcch4 => "ccch+sdcch4"
  | tchF => "tch/f"
  | tchH => "tch/h"
  | sdcch8 => "sdcch8"
  | pdch => "pdch"
  | tchFPdch => "tch/f_pdch"
  | tchFTchHPdch => "tch/f_tch/h_pdch"

def all : List Pchan :=
  [none, ccch, ccchSdcch4, tchF, tchH, sdcch8, pdch, tchFPdch, tchFTchHPdch]

def ofName? (s : String) : Option Pchan := all.find? (·.name == s)

end Pchan

/-- Layouts of the common control channel as broadcast in SI3 (3GPP TS 44.018, 10.5.2.11). -/
inductive CcchConf where
  /-- One channel that shares its multiframe with SDCCH/4. -/
  | oneCombined
  | one
  | two
  | three
  | four
deriving DecidableEq, Repr

namespace CcchConf

def name : CcchConf → String
  | oneCombined => "1c"
  | one => "1"
  | two => "2"
  | three => "3"
  | four => "4"

def all : List CcchConf := [oneCombined, one, two, three, four]

def ofName? (s : String) : Option CcchConf := all.find? (·.name == s)

end CcchConf
end BaseStation
