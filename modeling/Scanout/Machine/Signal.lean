/-!
# Signals

A process can be told to end by signals of several kinds.  Four of them ask for a shutdown and can
be turned into a flag; two do nothing; all others, and the four without the flag, end the process.

## Main definitions

* `Signal` — the signals that can be met
* `Machine.Process` — what a process has made of them
* `Machine.Process.raise` — what a signal does to a process
-/

namespace Scanout

/-- A signal. -/
inductive Signal where
  | hangUp
  | interrupt
  | quit
  | user1
  | user2
  | alarm
  | terminate
  | child
  | windowChange
  deriving DecidableEq, Repr

namespace Signal

/-- Every signal. -/
def all : List Signal :=
  [hangUp, interrupt, quit, user1, user2, alarm, terminate, child, windowChange]

/-- The name of a signal. -/
def name : Signal → String
  | hangUp => "SIGHUP"
  | interrupt => "SIGINT"
  | quit => "SIGQUIT"
  | user1 => "SIGUSR1"
  | user2 => "SIGUSR2"
  | alarm => "SIGALRM"
  | terminate => "SIGTERM"
  | child => "SIGCHLD"
  | windowChange => "SIGWINCH"

/-- The signal of a given name. -/
def ofName? (name : String) : Option Signal := all.find? fun signal => signal.name == name

/-- The number of a signal. -/
def number : Signal → Nat
  | hangUp => 1
  | interrupt => 2
  | quit => 3
  | user1 => 10
  | user2 => 12
  | alarm => 14
  | terminate => 15
  | child => 17
  | windowChange => 28

/-- Whether a signal asks for a shutdown. -/
def isShutdown : Signal → Bool
  | hangUp | interrupt | quit | terminate => true
  | user1 | user2 | alarm | child | windowChange => false

/-- Whether a signal does nothing to a process that has not asked for it. -/
def isIgnored : Signal → Bool
  | child | windowChange => true
  | hangUp | interrupt | quit | user1 | user2 | alarm | terminate => false

end Signal

namespace Machine

/-- **What a process has made of the signals so far.** -/
structure Process where
  /-- Whether shutdown signals are turned into the flag. -/
  handled : Bool
  /-- Whether a shutdown signal has arrived. -/
  requested : Bool
  deriving DecidableEq, Repr

namespace Process

/-- A process in which every signal still does what it does by itself. -/
def fresh : Process := ⟨false, false⟩

/-- **What a signal does to a process**; nothing is left of a process that it ends. -/
def raise (p : Process) (signal : Signal) : Option Process :=
  if signal.isIgnored then some p
  else if p.handled && signal.isShutdown then some { p with requested := true }
  else none

end Process

end Machine

end Scanout
