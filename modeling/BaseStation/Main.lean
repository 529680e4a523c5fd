import BaseStation.Bridge.FrameTurn
import BaseStation.ConfigFile.Load
import BaseStation.Phy.Backend
import BaseStation.Services.Quiet

/-!
The program: it sets up the base station that a configuration file describes, with quiet parties
above it, and turns the frame clock.
-/

namespace BaseStation

/-- The duration of a frame in nanoseconds, 120/26 ms. -/
def frameDuration : Nat := 4615385

/-- The delay in nanoseconds behind which the clock starts anew. -/
def maxLag : Nat := 26 * frameDuration

/-- When the turn after the one that was due at `due` is due. -/
def nextDue (due now : Nat) : Nat :=
  if due + frameDuration + maxLag < now then now else due + frameDuration

/-- Turns the frame clock from frame `fn` on. What was done is forgotten after each turn. -/
partial def runClock (site : Bridge.Site QuietServices Phy) (fn due : Nat)
    (w : Bridge.World QuietServices Phy) : IO Unit := do
  let (_, w) := Bridge.frameTurn site fn.toUInt32 w
  let due := nextDue due (← IO.monoNanosNow)
  let now ← IO.monoNanosNow
  IO.sleep ((due - now) / 1000000).toUInt32
  runClock site ((fn + 1) % hyperframe) due { w with trace := [], records := [] }

/-- The octets of a file, if it can be read. -/
def readOctets (path : String) : IO (Option (List UInt8)) := do
  try
    let bytes ← IO.FS.readBinFile path
    return some bytes.toList
  catch _ => return none

/-- Loads the configuration of a file and runs the base station. -/
def run (path : String) : IO UInt32 := do
  match ConfigFile.ofFile (← readOctets path) with
  | .error e =>
    IO.println ("Failed to load configuration from " ++ path ++ ": " ++ e.message)
    return 1
  | .ok (c, filter) =>
    match Phy.ofConfig c with
    | .error e =>
      IO.eprintln ("Unsupported phy_link backend: " ++ e.message)
      return 1
    | .ok phy =>
      let site : Bridge.Site QuietServices Phy := ⟨.ofConfig c, QuietServices.services, Phy.link⟩
      runClock site 0 (← IO.monoNanosNow) (.fresh c filter .fresh phy)
      return 0

end BaseStation

def main (args : List String) : IO UInt32 := do
  match args with
  | [path] => BaseStation.run path
  | _ =>
    IO.eprintln "usage: bts CONFIG"
    return 2
