/-!
# Signals

The signals that processes send each other, and what a process can do about them.
-/

namespace Traversal.Host

/-- A signal. -/
inductive Signal
  | hup | int | quit | ill | trap | abrt | bus | fpe | kill | usr1 | segv | usr2 | pipe | alrm | term
  | stkflt | chld | cont | stop | tstp | ttin | ttou | urg | xcpu | xfsz | vtalrm | prof | winch | io
  | pwr | sys
  /-- The signals from 32 on, which mean what programs agree on. -/
  | realTime (offset : Fin 33)
deriving DecidableEq, Repr

/-- What a process does about a signal. -/
inductive Disposition
  /-- What every process does unless it has said otherwise. -/
  | default
  | ignored
  /-- The process is told of the signal and goes on. -/
  | caught
deriving DecidableEq, Repr

/-- What a signal does to a process that leaves it at the default. -/
inductive Effect
  | terminates
  | stops
  | continues
  | none
deriving DecidableEq, Repr

namespace Signal

/-- All signals. -/
def all : List Signal :=
  [hup, int, quit, ill, trap, abrt, bus, fpe, kill, usr1, segv, usr2, pipe, alrm, term, stkflt, chld,
    cont, stop, tstp, ttin, ttou, urg, xcpu, xfsz, vtalrm, prof, winch, io, pwr, sys]
    ++ (List.finRange 33).map realTime

/-- The number of a signal. -/
def number : Signal → Nat
  | hup => 1
  | int => 2
  | quit => 3
  | ill => 4
  | trap => 5
  | abrt => 6
  | bus => 7
  | fpe => 8
  | kill => 9
  | usr1 => 10
  | segv => 11
  | usr2 => 12
  | pipe => 13
  | alrm => 14
  | term => 15
  | stkflt => 16
  | chld => 17
  | cont => 18
  | stop => 19
  | tstp => 20
  | ttin => 21
  | ttou => 22
  | urg => 23
  | xcpu => 24
  | xfsz => 25
  | vtalrm => 26
  | prof => 27
  | winch => 28
  | io => 29
  | pwr => 30
  | sys => 31
  | realTime offset => 32 + offset.val

/-- The name of a signal by which shells know it. -/
def name : Signal → String
  | hup => "HUP"
  | int => "INT"
  | quit => "QUIT"
  | ill => "ILL"
  | trap => "TRAP"
  | abrt => "ABRT"
  | bus => "BUS"
  | fpe => "FPE"
  | kill => "KILL"
  | usr1 => "USR1"
  | segv => "SEGV"
  | usr2 => "USR2"
  | pipe => "PIPE"
  | alrm => "ALRM"
  | term => "TERM"
  | stkflt => "16"
  | chld => "CHLD"
  | cont => "CONT"
  | stop => "STOP"
  | tstp => "TSTP"
  | ttin => "TTIN"
  | ttou => "TTOU"
  | urg => "URG"
  | xcpu => "XCPU"
  | xfsz => "XFSZ"
  | vtalrm => "VTALRM"
  | prof => "PROF"
  | winch => "WINCH"
  | io => "IO"
  | pwr => "PWR"
  | sys => "SYS"
  | realTime offset =>
    if offset.val < 2 then toString (32 + offset.val)
    else if offset.val = 2 then "RTMIN"
    else if offset.val < 18 then "RTMIN+" ++ toString (offset.val - 2)
    else if offset.val < 32 then "RTMAX-" ++ toString (32 - offset.val)
    else "RTMAX"

/-- The signal with a number. -/
def ofNumber? (n : Nat) : Option Signal :=
  all.find? (·.number = n)

/-- The signal with a name. -/
def ofName? (name : String) : Option Signal :=
  all.find? (·.name = name)

/-- What a signal does by default. -/
def effect : Signal → Effect
  | chld => .none
  | urg => .none
  | winch => .none
  | cont => .continues
  | stop => .stops
  | tstp => .stops
  | ttin => .stops
  | ttou => .stops
  | _ => .terminates

/-- Whether processes can do something else about a signal. -/
def isNegotiable (s : Signal) : Bool :=
  s ≠ kill && s ≠ stop

end Signal
end Traversal.Host
