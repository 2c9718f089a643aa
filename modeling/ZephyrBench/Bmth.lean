/-
ZephyrBench.Bmth — the measurement package, as the tests use it.

The package that records the measurements is not part of the repository. It is
a parameter: a type of measurement series with the operations the tests call,
and the laws of its terminology — an iteration inside an open window is one
more iteration of the series, an iteration outside of it is none. The laws say
nothing else about an iteration: neither what is stored nor when a window is
found to have jitter or a value to be an outlier.

Nothing is said about the state of the window after an iteration inside it,
since a window may run several; after `mwindowClose` it is closed, and closing
and opening change no number of iterations. Every result of the development
holds for all packages with these laws, and `Bmth.plain`, which only keeps the
window and the recorded time differences, shows that there is one.
-/
import Mathlib.Logic.Basic

namespace ZephyrBench

/-- Where the markers of a series are taken, as told to
`BMTH_mseries_initialize()`. -/
inductive ReadWindow
  | crossFunctionsFileScopeVars
  | insideFunctionFileScopeVars
  deriving DecidableEq

/-- The measurement package. The Boolean result of `mseriesIterate` tells
whether the window was completed with jitter. -/
structure Bmth where
  Series : Type
  mseriesInitialize : ReadWindow → Series
  mwindowOpen : Series → Series
  mwindowClose : Series → Series
  mseriesIterate : Series → Nat → Nat → Series × Bool
  iterationCount : Series → Nat
  valuesOutlierCount : Series → Nat
  isOpen : Series → Bool
  isOpen_mseriesInitialize : ∀ w, isOpen (mseriesInitialize w) = false
  isOpen_mwindowOpen : ∀ s, isOpen (mwindowOpen s) = true
  isOpen_mwindowClose : ∀ s, isOpen (mwindowClose s) = false
  isOpen_mseriesIterate_closed : ∀ s start stop, isOpen s = false →
    isOpen (mseriesIterate s start stop).1 = false
  iterationCount_mseriesInitialize : ∀ w, iterationCount (mseriesInitialize w) = 0
  iterationCount_mwindowOpen : ∀ s, iterationCount (mwindowOpen s) = iterationCount s
  iterationCount_mwindowClose : ∀ s, iterationCount (mwindowClose s) = iterationCount s
  iterationCount_mseriesIterate_open : ∀ s start stop, isOpen s = true →
    iterationCount (mseriesIterate s start stop).1 = iterationCount s + 1
  iterationCount_mseriesIterate_closed : ∀ s start stop, isOpen s = false →
    iterationCount (mseriesIterate s start stop).1 = iterationCount s

attribute [simp] Bmth.isOpen_mseriesInitialize Bmth.isOpen_mwindowOpen Bmth.isOpen_mwindowClose
  Bmth.isOpen_mseriesIterate_closed Bmth.iterationCount_mseriesInitialize
  Bmth.iterationCount_mwindowOpen Bmth.iterationCount_mwindowClose
  Bmth.iterationCount_mseriesIterate_open Bmth.iterationCount_mseriesIterate_closed

/-- A package that only keeps the window and the recorded time differences. -/
def Bmth.plain : Bmth where
  Series := Bool × List Nat
  mseriesInitialize _ := (false, [])
  mwindowOpen s := (true, s.2)
  mwindowClose s := (false, s.2)
  mseriesIterate s start stop := (if s.1 then (true, (stop - start) :: s.2) else s, false)
  iterationCount s := s.2.length
  valuesOutlierCount _ := 0
  isOpen s := s.1
  isOpen_mseriesInitialize _ := rfl
  isOpen_mwindowOpen _ := rfl
  isOpen_mwindowClose _ := rfl
  isOpen_mseriesIterate_closed s _ _ h := by simp [h]
  iterationCount_mseriesInitialize _ := rfl
  iterationCount_mwindowOpen _ := rfl
  iterationCount_mwindowClose _ := rfl
  iterationCount_mseriesIterate_open s _ _ h := by simp [h]
  iterationCount_mseriesIterate_closed s _ _ h := by simp [h]

end ZephyrBench
