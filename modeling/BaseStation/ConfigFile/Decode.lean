import BaseStation.ConfigFile.Document
import BaseStation.Toml.Document
import BaseStation.Toml.Tagged

/-!
How a configuration file is read: from TOML text to its sections. A value of the wrong kind, a
number out of range, an unknown name or a missing key that is needed fails the whole file, and so
does a badly tagged value under a key that means nothing.
-/

namespace BaseStation.ConfigFile

open Toml (Entries Value)

/-! ### Values -/

def octet? (v : Value) : Option UInt8 := (v.unsigned? 8).map Nat.toUInt8

def word16? (v : Value) : Option UInt16 := (v.unsigned? 16).map Nat.toUInt16

def word32? (v : Value) : Option UInt32 := (v.unsigned? 32).map Nat.toUInt32

def int32? (v : Value) : Option Int := v.integer? (-0x80000000) 0x7fffffff

/-! ### Sections -/

def section? {α : Type} (read : Entries → Option α) (v : Value) : Option α := v.entries?.bind read

def PhyLinkSection.ofEntries? (es : Entries) : Option PhyLinkSection := do
  return {
    backend := ← es.required "backend" fun v => v.name?.bind PhyBackend.ofName?
    unknown := ← es.keysBut? ["backend"] }

def CellSection.ofEntries? (es : Entries) : Option CellSection := do
  return {
    bsic := ← es.required "bsic" octet?
    maxTa := ← es.given "max_ta" octet?
    radioLinkTimeout := ← es.given "radio_link_timeout" int32?
    t200 := ← es.given "t200_ms" (Value.list? word32?)
    dtxDl := ← es.given "dtx_dl" Value.boolean?
    dtxUl := ← es.given "dtx_ul" Value.boolean?
    numAgch := ← es.given "num_agch" octet?
    ccchConf := ← es.given "ccch_conf" fun v => v.name?.bind CcchConf.ofName?
    unknown := ← es.keysBut? ["bsic", "max_ta", "radio_link_timeout", "t200_ms", "dtx_dl", "dtx_ul",
      "num_agch", "ccch_conf"] }

def CarrierSection.ofEntries? (es : Entries) : Option CarrierSection := do
  return {
    arfcn := ← es.required "arfcn" word16?
    timeslots := ← es.required "timeslots"
      (Value.list? fun v => v.name?.bind Pchan.ofName?)
    unknown := ← es.keysBut? ["arfcn", "timeslots"] }

def CaptureSection.ofEntries? (es : Entries) : Option CaptureSection := do
  return {
    enabled := (← es.given "enabled" Value.boolean?).getD false
    host := ← es.given "remote_host" Value.string?
    port := ← es.given "remote_port" word16?
    names := ← es.given "sapis" (Value.list? Value.string?)
    unknown := ← es.keysBut? ["enabled", "remote_host", "remote_port", "sapis"] }

/-! ### Documents -/

def Document.ofEntries? (es : Entries) : Option Document := do
  return {
    version := ← es.required "config_version" Value.string?
    debugLog := ← es.given "debug_log" Value.string?
    phyLink := ← es.given "phy_link" (section? PhyLinkSection.ofEntries?)
    cell := ← es.given "bts" (section? CellSection.ofEntries?)
    carriers := (← es.given "trx" (Value.list? (section? CarrierSection.ofEntries?))).getD []
    capture := ← es.given "gsmtap" (section? CaptureSection.ofEntries?)
    unknown := ← es.keysBut? ["config_version", "debug_log", "phy_link", "bts", "trx", "gsmtap"] }

def Document.ofText? (text : String) : Option Document := do
  Document.ofEntries? (← Toml.parse? text)

end BaseStation.ConfigFile
