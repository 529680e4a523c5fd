import BaseStation.Config.Basic

/-!
What a configuration file says, before it is checked: its sections with the values given in them,
and the keys that mean nothing.
-/

namespace BaseStation.ConfigFile

structure PhyLinkSection where
  backend : PhyBackend
  unknown : List String
deriving DecidableEq

structure CellSection where
  bsic : UInt8
  maxTa : Option UInt8
  radioLinkTimeout : Option Int
  t200 : Option (List UInt32)
  dtxDl : Option Bool
  dtxUl : Option Bool
  numAgch : Option UInt8
  ccchConf : Option CcchConf
  unknown : List String
deriving DecidableEq

structure CarrierSection where
  arfcn : UInt16
  timeslots : List Pchan
  unknown : List String
deriving DecidableEq

structure CaptureSection where
  enabled : Bool
  host : Option String
  port : Option UInt16
  names : Option (List String)
  unknown : List String
deriving DecidableEq

structure Document where
  version : String
  debugLog : Option String
  phyLink : Option PhyLinkSection
  cell : Option CellSection
  carriers : List CarrierSection
  capture : Option CaptureSection
  unknown : List String
deriving DecidableEq

end BaseStation.ConfigFile
