import Mathlib.Algebra.Ring.Nat
import Mathlib.Data.Char
import Mathlib.Tactic.Common

/-!
# Packet and connection marks

Netfilter keeps a 32-bit mark with each packet and another with each connection. The
MARK target rewrites the packet mark, the CONNMARK target rewrites the connection
mark or copies bits between the two. This file gives the meaning of their actions and
says which of them leave one bit of both marks alone.

An action whose mask avoids a bit still changes it when the value it writes has the bit:
`setXmark value mask` is `(mark and not mask) xor value`, and nothing confines the value to
the mask. `apply_keeps` and `exists_changed` say that with a mask that avoids the bit, values
with the bit and copies over it are the only ways to change it.
-/

namespace MishProxy.Netfilter

abbrev Mark := BitVec 32

/-- The mark of a packet and the mark of its connection. -/
structure Marks where
  nf : Mark
  ct : Mark
  deriving DecidableEq

inductive MarkAction where
  | setXmark (value mask : Mark)
  | setMark (value mask : Mark)
  | andMark (bits : Mark)
  | orMark (bits : Mark)
  | xorMark (bits : Mark)
  | saveMark (nfmask ctmask : Mark)
  | restoreMark (nfmask ctmask : Mark)
  deriving DecidableEq

namespace MarkAction

/-- The new value of the mark a set action is applied to. The copying actions set no
mark by themselves. -/
def write (mark : Mark) : MarkAction → Mark
  | setXmark value mask => (mark &&& ~~~mask) ^^^ value
  | setMark value mask => (mark &&& ~~~mask) ||| value
  | andMark bits => mark &&& bits
  | orMark bits => mark ||| bits
  | xorMark bits => mark ^^^ bits
  | saveMark _ _ => mark
  | restoreMark _ _ => mark

/-- The MARK target. -/
def onPacket (action : MarkAction) (marks : Marks) : Marks :=
  { marks with nf := action.write marks.nf }

/-- The CONNMARK target. -/
def onConnection (action : MarkAction) (marks : Marks) : Marks :=
  match action with
  | saveMark nfmask ctmask =>
      { marks with ct := (marks.ct &&& ~~~ctmask) ^^^ (marks.nf &&& nfmask) }
  | restoreMark nfmask ctmask =>
      { marks with nf := (marks.nf &&& ~~~nfmask) ^^^ (marks.ct &&& ctmask) }
  | other => { marks with ct := other.write marks.ct }

/-- The target of a rule: MARK, or CONNMARK for a connection. -/
def apply (connection : Bool) (action : MarkAction) (marks : Marks) : Marks :=
  if connection then action.onConnection marks else action.onPacket marks

/-- The mask of a set action leaves the bit out; the unmasked actions have none. -/
def MaskAvoids (bit : Nat) : MarkAction → Prop
  | setXmark _ mask => mask.getLsbD bit = false
  | setMark _ mask => mask.getLsbD bit = false
  | saveMark _ _ => True
  | restoreMark _ _ => True
  | _ => False

/-- The action writes a value with the bit, or copies it from one mark to the other or over
the other. MARK does not copy. -/
def touchesBit (connection : Bool) (bit : Nat) : MarkAction → Bool
  | setXmark value _ => value.getLsbD bit
  | setMark value _ => value.getLsbD bit
  | saveMark nfmask ctmask => connection && (nfmask.getLsbD bit || ctmask.getLsbD bit)
  | restoreMark nfmask ctmask => connection && (nfmask.getLsbD bit || ctmask.getLsbD bit)
  | _ => false

/-- The action may take the bit from a packet that has it. -/
def mayClearBit (connection : Bool) (bit : Nat) : MarkAction → Bool
  | setXmark value _ => !connection && value.getLsbD bit
  | restoreMark nfmask ctmask => connection && (nfmask.getLsbD bit || ctmask.getLsbD bit)
  | _ => false

end MarkAction

structure SameBit (bit : Nat) (a b : Marks) : Prop where
  nf : a.nf.getLsbD bit = b.nf.getLsbD bit
  ct : a.ct.getLsbD bit = b.ct.getLsbD bit

/-- The two pairs of marks differ at most in the bit. -/
structure SameElsewhere (bit : Nat) (a b : Marks) : Prop where
  nf : ∀ i, i ≠ bit → a.nf.getLsbD i = b.nf.getLsbD i
  ct : ∀ i, i ≠ bit → a.ct.getLsbD i = b.ct.getLsbD i

theorem sameBit_refl (bit marks) : SameBit bit marks marks := ⟨rfl, rfl⟩

def putBit (bit : Nat) (value : Bool) (mark : Mark) : Mark :=
  (mark &&& ~~~BitVec.twoPow 32 bit) ||| if value then BitVec.twoPow 32 bit else 0

/-- The marks with these values of the bit. -/
def Marks.put (bit : Nat) (nf ct : Bool) (marks : Marks) : Marks :=
  ⟨putBit bit nf marks.nf, putBit bit ct marks.ct⟩

section

variable {bit : Nat} (hbit : bit < 32)
include hbit

theorem getLsbD_putBit (value : Bool) (mark : Mark) (i : Nat) :
    (putBit bit value mark).getLsbD i = if i = bit then value else mark.getLsbD i := by
  by_cases hi : i < 32
  · by_cases heq : i = bit
    · cases value <;> simp [putBit, heq, hbit]
    · cases value <;> simp [putBit, hi, heq]
  · have hout : ∀ mark : Mark, mark.getLsbD i = false :=
      fun mark => BitVec.getLsbD_of_ge mark i (by omega)
    rw [hout, hout, if_neg (by omega)]

theorem getElem_putBit (value : Bool) (mark : Mark) : (putBit bit value mark)[bit] = value := by
  rw [← BitVec.getLsbD_eq_getElem, getLsbD_putBit hbit, if_pos rfl]

theorem sameElsewhere_put (nf ct : Bool) (marks : Marks) :
    SameElsewhere bit (marks.put bit nf ct) marks :=
  ⟨fun i hi => by simp [Marks.put, getLsbD_putBit hbit, hi],
    fun i hi => by simp [Marks.put, getLsbD_putBit hbit, hi]⟩

namespace MarkAction

variable {act : MarkAction} {connection : Bool}

/-- An action that touches no bit behind its mask keeps it in both marks. -/
theorem apply_keeps (hmask : act.MaskAvoids bit) (htouch : act.touchesBit connection bit = false)
    (marks : Marks) : SameBit bit (act.apply connection marks) marks := by
  cases act with
  | setXmark | setMark | saveMark | restoreMark =>
    cases connection <;> constructor <;>
      simp_all [MaskAvoids, touchesBit, apply, onPacket, onConnection, write]
  | andMark | orMark | xorMark => exact hmask.elim

theorem apply_keeps_set (hmask : act.MaskAvoids bit)
    (hclear : act.mayClearBit connection bit = false) {marks : Marks}
    (hset : marks.nf.getLsbD bit = true) : (act.apply connection marks).nf.getLsbD bit = true := by
  cases act with
  | setXmark | setMark | saveMark | restoreMark =>
    cases connection <;>
      simp_all [MaskAvoids, mayClearBit, apply, onPacket, onConnection, write]
  | andMark | orMark | xorMark => exact hmask.elim

/-- The bits of both marks can be chosen so that an action that touches the bit changes it:
a value finds it clear, and a copy finds two different bits. -/
theorem exists_changed (htouch : act.touchesBit connection bit = true) (marks : Marks) :
    ∃ nf ct, ¬ SameBit bit (act.apply connection (marks.put bit nf ct)) (marks.put bit nf ct) := by
  cases act with
  | setXmark value | setMark value =>
    refine ⟨false, false, fun hsame => ?_⟩
    cases connection
    · have := hsame.nf
      simp_all [touchesBit, apply, onPacket, write, Marks.put, getElem_putBit]
    · have := hsame.ct
      simp_all [touchesBit, apply, onConnection, write, Marks.put, getElem_putBit]
  | saveMark nfmask ctmask =>
    refine ⟨nfmask.getLsbD bit, !nfmask.getLsbD bit, fun hsame => ?_⟩
    have := hsame.ct
    cases hnf : nfmask.getLsbD bit <;>
      simp_all [touchesBit, apply, onConnection, Marks.put, getElem_putBit]
  | restoreMark nfmask ctmask =>
    refine ⟨!ctmask.getLsbD bit, ctmask.getLsbD bit, fun hsame => ?_⟩
    have := hsame.nf
    cases hct : ctmask.getLsbD bit <;>
      simp_all [touchesBit, apply, onConnection, Marks.put, getElem_putBit]
  | andMark | orMark | xorMark => cases htouch

end MarkAction

end

theorem and_mask_congr {bit : Nat} {a b mask : Mark}
    (hab : ∀ i, i ≠ bit → a.getLsbD i = b.getLsbD i) (hmask : mask.getLsbD bit = false) :
    a &&& mask = b &&& mask := by
  apply BitVec.eq_of_getLsbD_eq
  intro i _
  simp only [BitVec.getLsbD_and]
  by_cases heq : i = bit
  · subst heq
    simp [hmask]
  · rw [hab i heq]

/-- The bit of a number read as a 32-bit mark, from the code's overlap test. -/
theorem getLsbD_ofNat_of_and_twoPow {mask bit : Nat} (h : (mask &&& 2 ^ bit) = 0) :
    (BitVec.ofNat 32 mask).getLsbD bit = false := by
  have hbit := congrArg (fun n => n.testBit bit) h
  simp only [Nat.testBit_and, Nat.testBit_two_pow_self, Bool.and_true, Nat.zero_testBit] at hbit
  simp [BitVec.getLsbD_ofNat, hbit]

end MishProxy.Netfilter
