import BaseStation.Cause
import BaseStation.Lchan.Basic

/-!
Radio link supervision (3GPP TS 45.008, 5.2): the counter S goes down by one with each bad SACCH
frame and up by two with each good one, and the link has failed when it reaches zero.
-/

namespace BaseStation.Lchan

/-- The channel after a SACCH frame, and the cause if this frame makes the link fail. A negative
ceiling switches supervision off, and a counter at zero stays there. -/
def onSacchFrame (l : Lchan) (ceiling : Int) (bad : Bool) : Lchan × Option RslCause :=
  if ceiling < 0 ∨ l.s = 0 then (l, none)
  else if bad then
    ({ l with s := l.s - 1 }, if l.s - 1 = 0 then some .radioLinkFailure else none)
  else if l.s < ceiling then ({ l with s := min (l.s + 2) ceiling }, none)
  else (l, none)

end BaseStation.Lchan
