import ZephyrBench.TaskSwitching.SignalTheorems
import ZephyrBench.TaskSwitching.LifetimesTheorems
import ZephyrBench.Irt.LifetimesTheorems
import ZephyrBench.Itc.LifetimesTheorems
import ZephyrBench.Itc.SamplesTheorems
import ZephyrBench.Itc.AddressTheorems
import ZephyrBench.Itc.MsgqStorage
import ZephyrBench.Itc.PipeRing
import ZephyrBench.Mem.AdaptersTheorems
import ZephyrBench.Mem.HeapAccounts
import ZephyrBench.Mem.RowHeap
import ZephyrBench.Mem.Main
import ZephyrBench.Sim.WaitTheorems
import ZephyrBench.Sim.MainTheorems
import ZephyrBench.Sim.SemRefinement
