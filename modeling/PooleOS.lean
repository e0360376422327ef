import PooleOS.Sched.Composition
import PooleOS.Deferred.Fairness
import PooleOS.Reclaim.Runs
import PooleOS.Locks.Waiting
import PooleOS.Locks.TicketLoss
import PooleOS.Locks.SequenceRuns
import PooleOS.Locks.WriterRelease
import PooleOS.Paging.Release
import PooleOS.Workers.Runs
import PooleOS.Elf.Load
import PooleOS.Kmap.Audit
import PooleOS.Symbols.Lookup
import PooleOS.Bootload.Entry
import PooleOS.Pdc.Conversions
import PooleOS.Recovery.Safety
import PooleOS.Recovery.Parity
import PooleOS.Trust.Runs
import PooleOS.InitSys.Parity
import PooleOS.BootText.Canonical
import PooleOS.Firmware.Parity
import PooleOS.Preempt.Runs
import PooleOS.Active.Retry
import PooleOS.Policy.Authority
import PooleOS.InitSys.Totality
import PooleOS.Smp.Ownership
import PooleOS.InterruptTime.Hpet
import PooleOS.Recovery.Advice
import PooleOS.Recovery.Canonical
import PooleOS.Trap.Encoding
import PooleOS.Pmm.Coalesce
import PooleOS.Atomics.RefCount
import PooleOS.LiveHandoff.Order
