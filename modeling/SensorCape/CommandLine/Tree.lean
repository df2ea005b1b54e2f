/-
**The system's file tree.**

The command line knows the tree only as far as every system has it: the usual directories, and the
devices that no hardware is behind. The daemon itself is told what is at a path when it is started.

* `systemTree`: the tree.
* `Kernel.Node.atPath`: the node that a path leads to in it.
-/

import SensorCape.Kernel.Path

namespace SensorCape

namespace CommandLine

open Kernel (Node Tree)

/-- The directories that every system has, by the names on the way from the root. -/
def knownDirectories : List (List String) :=
  [[], ["bin"], ["boot"], ["dev"], ["dev", "fd"], ["dev", "mqueue"], ["dev", "pts"],
    ["dev", "shm"], ["etc"], ["home"], ["lib"], ["lib64"], ["media"], ["mnt"], ["opt"], ["proc"],
    ["proc", "self"], ["root"], ["run"], ["sbin"], ["srv"], ["sys"], ["sys", "bus"],
    ["sys", "class"], ["sys", "devices"], ["tmp"], ["usr"], ["usr", "bin"], ["usr", "include"],
    ["usr", "lib"], ["usr", "local"], ["usr", "local", "bin"], ["usr", "local", "lib"],
    ["usr", "sbin"], ["usr", "share"], ["usr", "src"], ["var"], ["var", "cache"], ["var", "lib"],
    ["var", "log"], ["var", "spool"], ["var", "tmp"]]

/-- The devices that every system has and no hardware is behind. A daemon has no terminal. -/
def knownDevices : List (List String × Node) :=
  [(["dev", "null"], .sink), (["dev", "zero"], .zeros),
    (["dev", "tty"], .absent .noDeviceOrAddress)]

/-- The system's tree; in the directory that the daemon is started in nothing is known. -/
def systemTree : Tree where
  nodeOf names :=
    if knownDirectories.contains names then .directory
    else (knownDevices.lookup names).getD (.absent .noEntry)
  startingDirectory := ["tmp"]

end CommandLine

/-- The node at a path of the system. -/
def Kernel.Node.atPath (path : String) : Kernel.Node := CommandLine.systemTree.nodeAt path

end SensorCape
