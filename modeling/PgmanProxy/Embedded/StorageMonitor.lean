import PgmanProxy.Library.GoStrings

/-!
# Watching the JetStream directory

A ticker lets the monitor look at the storage directory. The first time it finds the
directory unusable or the disk almost full it emits one event and calls the fence, which
gives up the leadership lease. Free space is a product of two words of the file system's
answer, computed in 64 bits.
-/

namespace PgmanProxy.Embedded.StorageMonitor

open PgmanProxy.Library.GoStrings

set_option autoImplicit false

inductive StorageDegradedKind where
  | diskFull
  | pathUnwritable
deriving DecidableEq, Repr

structure StorageMonitorOptions where
  path : String
  minFreeBytes : BitVec 64
deriving DecidableEq, Repr

/-- What the file system answers to one look at the directory. -/
structure Disk where
  /-- `os.Stat`: whether the path is a directory -/
  stat : Except String Bool
  /-- the error of creating the probe file -/
  probe : Option String
  /-- `Bavail` and `Bsize` of `syscall.Statfs` -/
  statfs : Except String (BitVec 64 × BitVec 64)
deriving Repr

structure Degraded where
  kind : StorageDegradedKind
  free : BitVec 64
  err : String
deriving DecidableEq, Repr

def check (opts : StorageMonitorOptions) (disk : Disk) : Option Degraded :=
  match disk.stat with
  | .error err => some ⟨.pathUnwritable, 0, err⟩
  | .ok false =>
      some ⟨.pathUnwritable, 0, "path " ++ quote opts.path ++ " is not a directory"⟩
  | .ok true =>
      match disk.probe with
      | some err => some ⟨.pathUnwritable, 0, err⟩
      | none =>
          match disk.statfs with
          | .error err => some ⟨.pathUnwritable, 0, err⟩
          | .ok (bavail, bsize) =>
              let free := bavail * bsize
              if free < opts.minFreeBytes then
                some
                  ⟨.diskFull, free,
                    "free bytes " ++ toString free.toNat ++ " below threshold " ++
                      toString opts.minFreeBytes.toNat⟩
              else none

/-- The monitor's memory, and the calls of the event emitter and the fence it has made. -/
structure Monitor where
  tripped : Bool
  calls : List Degraded
deriving DecidableEq, Repr

def Monitor.fresh : Monitor := ⟨false, []⟩

def Monitor.trip (monitor : Monitor) (degraded : Degraded) : Monitor :=
  if monitor.tripped then monitor else ⟨true, monitor.calls ++ [degraded]⟩

/-- One tick of `run`. -/
def Monitor.poll (opts : StorageMonitorOptions) (monitor : Monitor) (disk : Disk) : Monitor :=
  match check opts disk with
  | none => monitor
  | some degraded => monitor.trip degraded

end PgmanProxy.Embedded.StorageMonitor
