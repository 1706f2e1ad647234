import GenWalk.Adapter.Mock
import GenWalk.Machine.Launch

/-!
A machine with its programs in the usual places, and a machine with a mock beside it, so that
generators can be run for real or only be noted down.
-/

namespace GenWalk

namespace Machine

def programDirectory : Location := ["usr", "bin"]

def deviceDirectory : Location := ["dev"]

def deviceNames : List String := ["null", "zero", "random", "urandom"]

/-- A disk with the programs of the machine under `/usr/bin`, to which `/bin` leads, and with
devices. -/
def furnishedDisk : Disk :=
  let base := ((({} : Disk).ensureDirectory programDirectory).ensureDirectory deviceDirectory)
    |>.ensureDirectory ["tmp"]
  let linked := deviceNames.foldl (fun disk name =>
    disk.insert (deviceDirectory ++ [Text.ofString name]) .device)
    (base.insert ["bin"] (.link "usr/bin"))
  Tool.names.foldl (fun disk name =>
    disk.insert (programDirectory ++ [Text.ofString name]) (.file 0o755 (.program name))) linked

end Machine

structure Bench where
  machine : Machine := {}
  mock : Mock := {}
deriving Inhabited

namespace Bench

def withMachine (machine : Machine) (bench : Bench) : Bench := { bench with machine }

def withMock (mock : Mock) (bench : Bench) : Bench := { bench with mock }

def host : Host Bench := Machine.host.through machine withMachine

def processes : Adapter Bench := Machine.processAdapter.through machine withMachine

def noting (bench : Bench) : Adapter Bench := Mock.adapter bench.mock.name Bench.mock withMock

end Bench

end GenWalk
