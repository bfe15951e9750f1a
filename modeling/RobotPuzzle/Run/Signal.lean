/-! Stop signals. A signal is shared by everyone who holds it, so that what one raises all of them
see; two runs never have the same one. -/

namespace RobotPuzzle

structure Signal where
  index : Nat
deriving DecidableEq, Repr

structure Signals where
  raised : List Bool
deriving DecidableEq, Repr

namespace Signals

def none : Signals := ⟨[]⟩

def issue (signals : Signals) : Signal × Signals :=
  (⟨signals.raised.length⟩, ⟨signals.raised ++ [false]⟩)

def raise (signals : Signals) (signal : Signal) : Signals :=
  ⟨signals.raised.set signal.index true⟩

def isRaised (signals : Signals) (signal : Signal) : Bool :=
  signals.raised[signal.index]?.getD false

theorem isRaised_issue (signals : Signals) (signal : Signal) :
    signals.issue.2.isRaised signal = signals.isRaised signal := by
  simp only [issue, isRaised, List.getElem?_append]
  split
  · rfl
  · rename_i h
    rw [List.getElem?_eq_none (Nat.le_of_not_lt h)]
    cases signal.index - signals.raised.length <;> rfl

theorem isRaised_raise (signals : Signals) (signal other : Signal)
    (h : signal.index < signals.raised.length) :
    (signals.raise signal).isRaised other =
      (decide (signal = other) || signals.isRaised other) := by
  by_cases he : signal = other
  · subst he
    simp [raise, isRaised, List.getElem?_set_self h]
  · have hi : signal.index ≠ other.index := fun hi => he (by
      cases signal
      cases other
      exact congrArg Signal.mk hi)
    simp [raise, isRaised, List.getElem?_set_ne hi, he]

end Signals

end RobotPuzzle
