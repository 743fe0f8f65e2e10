import Rebind.Diagnostic
/-!
Faults: why a piece of work was given up. A fault is a diagnostic of this library, one of its plainer
refusals, or an ordinary error of the values at hand, of which only the kind is kept.
-/
namespace Rebind

inductive ErrorKind where
  | type | value | overflow | zeroDivision | arithmetic | name | unboundLocal | attribute | index
  | key | lookup | assertion | notImplemented | runtime | importing | grammar | buffer | general
deriving DecidableEq, Repr

namespace ErrorKind

def parent? : ErrorKind → Option ErrorKind
  | overflow | zeroDivision => some arithmetic
  | unboundLocal => some name
  | index | key => some lookup
  | notImplemented => some runtime
  | general => none
  | _ => some general

end ErrorKind

inductive Fault where
  | diagnostic (report : Diagnostic)
  /-- The text is no program. -/
  | unreadable
  /-- An expander gave something that is no tree. -/
  | expansionNotTree (name : String)
  /-- An expander gave up. -/
  | expanderFailed
  /-- A function whose only work is to fail did so. -/
  | failCalled
  /-- No argument is an array. -/
  | noArray
  /-- Something other than a plain function was to be given new code. -/
  | notFunction (type : String)
  /-- The function was never given new code. -/
  | notLowered (shown : String)
  | ordinary (kind : ErrorKind)
  /-- A fault that arose on a line of a program. -/
  | located (line : Nat) (fault : Fault)
deriving Inhabited

namespace Fault

def kind : Fault → ErrorKind
  | diagnostic _ => .value
  | unreadable => .grammar
  | expansionNotTree _ => .type
  | expanderFailed => .value
  | failCalled => .value
  | noArray => .type
  | notFunction _ => .type
  | notLowered _ => .value
  | ordinary kind => kind
  | located _ fault => fault.kind

def message? : Fault → Option String
  | diagnostic report => some report.message
  | expansionNotTree name =>
    some ("macro " ++ Text.quoted name ++ " must expand to an ast statement or expression")
  | expanderFailed => some "macro raised"
  | failCalled => some "fail called"
  | noArray => some "no Array API compatible array among arguments"
  | notFunction type => some ("expected a plain function, got " ++ type)
  | notLowered shown => some (shown ++ " was not rewritten")
  | located _ fault => fault.message?
  | unreadable | ordinary _ => none

def line? : Fault → Option Nat
  | located line _ => some line
  | _ => none

def bare : Fault → Fault
  | located _ fault => fault.bare
  | fault => fault

def at_ (line : Nat) : Fault → Fault
  | located inner fault => located inner fault
  | fault => located line fault

end Fault
end Rebind
