import BaseStation.Octets

/-!
The filling of the slow associated control channel: system information blocks that are sent in
turn while the link layer has nothing to send.
-/

namespace BaseStation

/-- Types of system information, in the order of the rotation. -/
inductive SysinfoType where
  | none
  | si1
  | si2
  | si3
  | si4
  | si5
  | si6
  | si7
  | si8
  | si9
  | si13
  | si16
  | si17
  | si18
  | si19
  | si20
  | si2bis
  | si2ter
  | si2quater
  | si5bis
  | si5ter
  | emo
  | measInfo
deriving DecidableEq, Repr

namespace SysinfoType

def all : List SysinfoType :=
  [none, si1, si2, si3, si4, si5, si6, si7, si8, si9, si13, si16, si17, si18, si19, si20, si2bis,
    si2ter, si2quater, si5bis, si5ter, emo, measInfo]

def index (t : SysinfoType) : Fin 23 := ⟨t.ctorIdx, by cases t <;> decide⟩

/-- All types in cyclic order, the one after `t` first and `t` last. -/
def after (t : SysinfoType) : List SysinfoType :=
  all.drop (t.index + 1) ++ all.take (t.index + 1)

end SysinfoType

/-- The blocks installed for a channel and the type of the one sent last. -/
structure SacchFill where
  blocks : Vector (Option MacBlock) 23
  last : SysinfoType
deriving DecidableEq

namespace SacchFill

def empty : SacchFill := ⟨Vector.replicate 23 none, .none⟩

def block? (f : SacchFill) (t : SysinfoType) : Option MacBlock := f.blocks[t.index]

/-- Installs the block that starts with `data`. -/
def set (f : SacchFill) (t : SysinfoType) (data : List UInt8) : SacchFill :=
  { f with blocks := f.blocks.set t.index (some (.ofOctets data)) }

def clear (f : SacchFill) (t : SysinfoType) : SacchFill :=
  { f with blocks := f.blocks.set t.index none }

def isValid (f : SacchFill) (t : SysinfoType) : Bool := (f.block? t).isSome

theorem block?_set (f : SacchFill) (t u : SysinfoType) (data : List UInt8) :
    (f.set t data).block? u = if t.index = u.index then some (.ofOctets data) else f.block? u := by
  simp [set, block?, Vector.getElem_set, Fin.ext_iff]

theorem block?_clear (f : SacchFill) (t u : SysinfoType) :
    (f.clear t).block? u = if t.index = u.index then none else f.block? u := by
  simp [clear, block?, Vector.getElem_set, Fin.ext_iff]

/-- The next installed block after the one sent last, and the rotation moved on to it. -/
def next (f : SacchFill) : Option MacBlock × SacchFill :=
  match (SysinfoType.after f.last).find? f.isValid with
  | some t => (f.block? t, { f with last := t })
  | none => (none, f)

end SacchFill
end BaseStation
