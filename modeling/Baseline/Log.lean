import Baseline.Device
import Baseline.FileTree
import Baseline.Json.Record

/-!
# Logs

A log keeps records in the order in which they were made, and may append each of
them to a file, one a line.  A log is shared by its handles: what one handle
records, all of them show.

The device of the file may refuse a line.  The part before that is in the file then, and
what is left over may go in front of the next line.

Clearing a log empties its list and leaves its file alone.
-/

namespace Baseline

/-- The byte that ends a line. -/
def Log.newline : UInt8 := 10

/-- The file that a log appends to.  A file that was removed takes its lines with it. -/
structure LogFile where
  above : Location
  name : Name
  attached : Bool
  /-- What is left over of lines that were refused. -/
  waiting : Bytes
  device : Device
deriving DecidableEq

namespace LogFile

/-- A file that was just opened. -/
def opened (above : Location) (name : Name) : LogFile := ⟨above, name, true, [], .endless⟩

/-- Add bytes to the file of a log. -/
def add (f : LogFile) (files : FileTree) (data : Bytes) : FileTree :=
  if f.attached then files.appendAt f.above f.name data else files

/-- Carry out a delivery to the file of a log: why it was refused if it was, the file after it, and
the tree. -/
def deliver (f : LogFile) (files : FileTree) (d : Delivery) :
    Except Fault Unit × LogFile × FileTree :=
  let outcome (answer : Except Fault Unit) (o : Outlet) :=
    (answer, { f with waiting := o.waiting, device := o.device }, f.add files o.taken)
  match d ⟨[], f.waiting, f.device⟩ with
  | .ok () o => outcome (.ok ()) o
  | .error fault o => outcome (.error fault) o

/-- Write a line behind all that waits. -/
def writeLine (f : LogFile) (files : FileTree) (text : Bytes) :
    Except Fault Unit × LogFile × FileTree :=
  f.deliver files (Outlet.putAll [text, [Log.newline]])

/-- The file after the node at a location, and all below it, was removed. -/
def detach (f : LogFile) (removed : Location) : LogFile :=
  if removed.isSuffixOf (f.name :: f.above) then { f with attached := false } else f

end LogFile

/-- A list of records and the file that they are appended to, if any. -/
structure Log where
  records : List Record
  file : Option LogFile

namespace Log

/-- A log without a file. -/
def new : Log := ⟨[], none⟩

/-- A log that appends to a file, which is made when it is missing. -/
def openFile (files : FileTree) (p : Path) : Except Fault (Log × FileTree) :=
  match files.openForWriting p with
  | .error fault => .error fault
  | .ok (above, name) =>
    .ok (⟨[], some (.opened above name)⟩, files.appendAt above name [])

/-- The text that a record is written as; none when its test's path is no text. -/
def textOf? (r : Record) : Option Bytes :=
  r.toJson?.map fun json => Utf8.encode (String.ofList json.write)

/-- The record that comes next. -/
def next (l : Log) (now : Timestamp) (elapsed : Nat) (test : Path) (engine : String)
    (failures : Verdict) : Record :=
  ⟨l.records.length, now, elapsed, test, engine, failures⟩

/-- Record a verdict.  The record is in the list before its line is written, so it stays there
when it cannot be written, or not all of it. -/
def record (l : Log) (files : FileTree) (now : Timestamp) (elapsed : Nat) (test : Path)
    (engine : String) (failures : Verdict) : Except Fault Record × Log × FileTree :=
  let r := l.next now elapsed test engine failures
  let records := l.records ++ [r]
  match l.file with
  | none => (.ok r, { l with records }, files)
  | some f =>
    match textOf? r with
    | none => (.error .pathNotText, { l with records }, files)
    | some text =>
      let (written, f, files) := f.writeLine files text
      (written.map fun _ => r, ⟨records, some f⟩, files)

/-- The records of tests that did not pass. -/
def failures (l : Log) : List Record := l.records.filter fun r => !r.passed

/-- The last `n` records. -/
def last (l : Log) (n : Nat) : List Record := l.records.drop (l.records.length - n)

/-- Whether there is no record. -/
def isEmpty (l : Log) : Bool := l.records.isEmpty

/-- The log without its records. -/
def clear (l : Log) : Log := { l with records := [] }

/-- The log with another device for its file. -/
def withDevice (l : Log) (device : Device) : Log :=
  { l with file := l.file.map fun f => { f with device } }

/-- The files after the last handle of a log is given up: what waits is handed over once more,
whatever comes of it. -/
def close (l : Log) (files : FileTree) : FileTree :=
  match l.file with
  | none => files
  | some f => (f.deliver files Outlet.flush).2.2

/-- The log after the node at a location, and all below it, was removed. -/
def detach (l : Log) (removed : Location) : Log :=
  { l with file := l.file.map fun f => f.detach removed }

end Log

/-- Logs and their handles. -/
structure Logs where
  logs : List Log
  /-- The place of each handle's log, the newest handle first. -/
  handles : List (String × Nat)

namespace Logs

/-- No logs. -/
def none : Logs := ⟨[], []⟩

/-- The log of a handle. -/
def log? (s : Logs) (handle : String) : Option Log :=
  (s.handles.lookup handle).bind fun i => s.logs[i]?

/-- Add a log under a handle. -/
def add (s : Logs) (handle : String) (l : Log) : Logs :=
  ⟨s.logs ++ [l], (handle, s.logs.length) :: s.handles⟩

/-- Give the log of a handle another handle. -/
def clone (s : Logs) (handle other : String) : Logs :=
  match s.handles.lookup handle with
  | some i => { s with handles := (other, i) :: s.handles }
  | Option.none => s

/-- Replace the log of a handle. -/
def update (s : Logs) (handle : String) (l : Log) : Logs :=
  match s.handles.lookup handle with
  | some i => { s with logs := s.logs.set i l }
  | Option.none => s

/-- The logs after the node at a location, and all below it, was removed. -/
def detach (s : Logs) (removed : Location) : Logs :=
  { s with logs := s.logs.map fun l => l.detach removed }

end Logs

end Baseline
