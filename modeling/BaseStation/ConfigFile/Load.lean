import BaseStation.Capture
import BaseStation.ConfigFile.Decode
import BaseStation.Text.Quoted

/-!
How a configuration file becomes a configuration: what the file leaves out has its default, and
what it says has to be known, complete and valid. The names of captured categories become the
filter to start with.
-/

namespace BaseStation.ConfigFile

/-! ### Errors -/

inductive Place where
  | top
  | phyLink
  | cell
  | carrier (nr : Nat)
  | capture
deriving DecidableEq, Repr

/-- The words in front of a list of keys that mean nothing. -/
def Place.text : Place → String
  | top => "Unrecognized top-level fields: "
  | phyLink => "Unrecognized fields: phy_link::"
  | cell => "Unrecognized fields in bts: "
  | carrier nr => "Unrecognized fields in trx " ++ toString nr ++ ": "
  | capture => "Unrecognized fields in gsmtap: "

inductive LoadError where
  | missing
  | notText
  /-- It is not TOML, or says something that no configuration file can say. -/
  | malformed
  | version (found : String)
  | unknownKeys (place : Place) (keys : List String)
  | slotCount (carrier count : Nat)
  | t200Count (count : Nat)
  | captureName (name : String)
  | invalid (e : ConfigError)
deriving DecidableEq

def formatVersion : String := "0.1"

def LoadError.message : LoadError → String
  | missing => "no such file"
  | notText => "not a UTF-8 text"
  | malformed => "not a configuration in TOML"
  | version found => "Unrecognized config_version: " ++ found ++ ", expect " ++ formatVersion
  | unknownKeys place keys => place.text ++ Text.quotedList keys
  | slotCount carrier count =>
    "trx " ++ toString carrier ++ " must list exactly " ++ toString numSlots ++
      " timeslots, found " ++ toString count
  | t200Count count =>
    "bts.t200_ms must list exactly " ++ toString T200Table.size ++ " values, found " ++
      toString count
  | captureName name => "Unrecognized gsmtap sapi: " ++ name
  | invalid e => e.message

/-! ### Sections -/

/-- Refuses keys that mean nothing. -/
def checkKeys (place : Place) (keys : List String) : Except LoadError Unit :=
  if keys = [] then .ok () else .error (.unknownKeys place keys)

/-- The carrier of a section, which lists its timeslots in full. -/
def CarrierSection.toConfig (nr : Nat) (c : CarrierSection) : Except LoadError CarrierConfig := do
  checkKeys (.carrier nr) c.unknown
  if h : c.timeslots.length = numSlots then return ⟨c.arfcn, ⟨c.timeslots.toArray, h⟩⟩
  else throw (.slotCount nr c.timeslots.length)

/-- The table of timers, the default one if none is given. -/
def t200Table : Option (List UInt32) → Except LoadError T200Table
  | none => .ok .default
  | some ts =>
    match T200Table.ofList? ts with
    | some t => .ok t
    | none => .error (.t200Count ts.length)

def CellSection.toConfig (c : CellSection) : Except LoadError CellConfig := do
  let d := CellConfig.default
  return {
    bsic := c.bsic
    maxTa := c.maxTa.getD d.maxTa
    radioLinkTimeout := c.radioLinkTimeout.getD d.radioLinkTimeout
    t200 := ← t200Table c.t200
    dtxDl := c.dtxDl.getD d.dtxDl
    dtxUl := c.dtxUl.getD d.dtxUl
    numAgch := c.numAgch.getD d.numAgch
    ccchConf := c.ccchConf.getD d.ccchConf }

/-- The capture of a section, and the filter that its names select. -/
def CaptureSection.toConfig (c : CaptureSection) :
    Except LoadError (CaptureConfig × Capture.Filter) := do
  let d := CaptureConfig.default
  let names := c.names.getD d.names
  match Capture.Filter.ofNames names with
  | .ok filter => return (⟨c.enabled, c.host.getD d.host, c.port.getD d.port, names⟩, filter)
  | .error name => throw (.captureName name)

/-! ### Files -/

/-- The configuration of a document, and the filter to start with; of several faults the first is
named. -/
def Document.toConfig (d : Document) : Except LoadError (Config × Capture.Filter) := do
  if d.version ≠ formatVersion then throw (.version d.version)
  checkKeys .top d.unknown
  checkKeys .phyLink (d.phyLink.elim [] (·.unknown))
  checkKeys .cell (d.cell.elim [] (·.unknown))
  let carriers ← d.carriers.zipIdx.mapM fun (c, nr) => c.toConfig nr
  checkKeys .capture (d.capture.elim [] (·.unknown))
  let cell ← d.cell.elim (pure .default) CellSection.toConfig
  let (capture, filter) ←
    d.capture.elim (pure (.default, .empty)) CaptureSection.toConfig
  let c : Config :=
    ⟨d.debugLog, cell, carriers, capture, d.phyLink.elim .undefined (·.backend)⟩
  match c.validate with
  | .ok () => return (c, filter)
  | .error e => throw (.invalid e)

def ofText (text : String) : Except LoadError (Config × Capture.Filter) :=
  match Document.ofText? text with
  | some d => d.toConfig
  | none => .error .malformed

def ofOctets (octets : List UInt8) : Except LoadError (Config × Capture.Filter) :=
  match String.fromUTF8? ⟨octets.toArray⟩ with
  | some text => ofText text
  | none => .error .notText

/-- The configuration of a file, if there is one. -/
def ofFile : Option (List UInt8) → Except LoadError (Config × Capture.Filter)
  | some octets => ofOctets octets
  | none => .error .missing

end BaseStation.ConfigFile
