import TextMate.Text.Word

/-
  This file defines the signals that end processes, by their
  numbers and names.

  Key definitions include:
    * `Signal.names`
    * `Signal.number?`
    * `Signal.endsProcess`
-/

namespace TextMate

namespace Script

namespace Signal

/- The names of the signals in order, from number one on. -/
def names : List String :=
  ["HUP", "INT", "QUIT", "ILL", "TRAP", "ABRT", "BUS", "FPE",
    "KILL", "USR1", "SEGV", "USR2", "PIPE", "ALRM", "TERM",
    "STKFLT", "CHLD", "CONT", "STOP", "TSTP", "TTIN", "TTOU",
    "URG", "XCPU", "XFSZ", "VTALRM", "PROF", "WINCH", "IO",
    "PWR", "SYS"]

/- The greatest number of a signal. -/
def limit : Nat := 64

/- The signal that is sent when no other is named. -/
def usual : Nat := 15

def name?
    (signal : Nat) : Option String :=
  if signal = 0 then none else names[signal - 1]?

/- The signal that a text names, by its name or number. -/
def number?
    (text : String) : Option Nat :=
  match text.toNat? with
  | some number => if number ≤ limit then some number else none
  | none =>
      let name := text.toUpper
      if name = "EXIT" then some 0
      else (names.idxOf? name).map (· + 1)

/-
  The signal ends a process that did not ask otherwise.  Some
  are ignored, and some only stop a process for a while.
-/
def endsProcess
    (signal : Nat) : Bool :=
  signal != 0 &&
    !([17, 18, 19, 20, 21, 22, 23, 28].contains signal)

end Signal

end Script

end TextMate
