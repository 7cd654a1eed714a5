import Scanout.Machine.Question

/-!
# Event devices

The event devices of a directory are its entries whose names begin with `event` and that can be
read.  They are told in the order of the bytes of their names, whatever the order in which the
directory lists them.

## Main definitions

* `Input.eventName?` — the name of an entry, if it is that of an event device
* `Input.eventDevices` — the names of the event devices in a listing
-/

namespace Scanout.Input

/-- How the names of event devices begin. -/
def eventStart : List Char := "event".toList

/-- **The name of an entry that can be read and whose name is text that begins with `event`.** -/
def eventName? (entry : Machine.Entry) : Option String :=
  if entry.readable then
    match String.fromUTF8? ⟨entry.name.toArray⟩ with
    | some name => if eventStart.isPrefixOf name.toList then some name else none
    | none => none
  else none

/-- Whether one name is not after another in the order of their bytes, which is the order of their
code points. -/
def notAfter (a b : String) : Bool := !decide (b < a)

/-- **The event devices of a listing**, in the order of their names. -/
def eventDevices (entries : List Machine.Entry) : List String :=
  (entries.filterMap eventName?).mergeSort notAfter

/-- How a message shows the devices of a directory. -/
def renderDevices (directory : Path) (names : List String) : String :=
  let shown := names.map fun name => (directory.join (.ofText name)).quoted
  "[" ++ String.intercalate ", " shown ++ "]"

end Scanout.Input
