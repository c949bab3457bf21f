/-
**A network in memory.**

Listeners are bound to URLs, case aside.  A dialer of a URL gets one end of a line and the listener
the other; bytes that are written at one end are read at the other, in order.  A line is closed for
both ends when either of them goes; what was written before can still be read.

A pipe holds only so many bytes that nobody took off yet: a writer may have to wait until the reader
takes some.  A reader that takes off what comes as it comes makes no writer wait.

Main definitions:

* `Pipe`, `Pipe.fill` — bytes on their way, and as many more as there is room for;
* `Network` — listeners and lines;
* `Network.bind`, `unbind`, `dropListener`, `connect`, `accept` — how lines come about;
* `Network.write`, `push`, `available`, `leave`, `close` — how bytes pass.

Main results:

* `Pipe.fill_append` — what a pipe took and what it left over is what was there before and the bytes
  that were added, in order.
-/

import HubReplication.Error
import HubReplication.SortedMap
import HubReplication.Text.Ascii

set_option relaxedAutoImplicit false
set_option autoImplicit false

namespace HubReplication

/-- Bytes on their way in one direction. -/
structure Pipe where
  bytes : List UInt8
  /-- No byte will be added. -/
  closed : Bool
  /-- Whether what comes is taken off as it comes, so that there is always room. -/
  eager : Bool

namespace Pipe

/-- A pipe that nothing was written to. -/
def fresh : Pipe := ⟨[], false, false⟩

/-- How many bytes a pipe holds. -/
def capacity : Nat := 256 * 1024

/-- For how many of some bytes there is room. -/
def room (p : Pipe) (bytes : List UInt8) : Nat :=
  if p.eager then bytes.length else capacity - p.bytes.length

/-- A pipe with as many more bytes as there is room for, and the bytes left over. -/
def fill (p : Pipe) (bytes : List UInt8) : Pipe × List UInt8 :=
  ({ p with bytes := p.bytes ++ bytes.take (p.room bytes) }, bytes.drop (p.room bytes))

theorem fill_append (p : Pipe) (bytes : List UInt8) :
    (p.fill bytes).1.bytes ++ (p.fill bytes).2 = p.bytes ++ bytes := by
  simp [fill]

end Pipe

/-- Which end of a line. -/
inductive Side where
  | dialer
  | acceptor
deriving DecidableEq, Repr

/-- The other end. -/
def Side.other : Side → Side
  | .dialer => .acceptor
  | .acceptor => .dialer

/-- One end of a line. -/
structure LineEnd where
  line : Nat
  side : Side
deriving DecidableEq, Repr

/-- A line: what is on its way to either end. -/
structure Line where
  toDialer : Pipe
  toAcceptor : Pipe

namespace Line

/-- A line on which nothing was written. -/
def fresh : Line := ⟨.fresh, .fresh⟩

/-- What is on its way to an end. -/
def toward (l : Line) : Side → Pipe
  | .dialer => l.toDialer
  | .acceptor => l.toAcceptor

/-- Change what is on its way to an end. -/
def change (l : Line) (side : Side) (f : Pipe → Pipe) : Line :=
  match side with
  | .dialer => { l with toDialer := f l.toDialer }
  | .acceptor => { l with toAcceptor := f l.toAcceptor }

/-- The line when an end of it is gone. -/
def shut (l : Line) : Line :=
  ⟨{ l.toDialer with closed := true }, { l.toAcceptor with closed := true }⟩

end Line

/-- A listener and the lines that wait for it. -/
structure Listener where
  url : String
  waiting : List Nat
  /-- Whether dialers still find it. -/
  bound : Bool

/-- Listeners and lines. -/
structure Network where
  endpoints : SortedMap String Nat
  listeners : SortedMap Nat Listener
  lines : SortedMap Nat Line
  /-- The next number for a listener or a line. -/
  next : Nat

/-- What a listener gets. -/
inductive Accepted where
  /-- An end of a line, and a text about the peer. -/
  | arrived (atEnd : LineEnd) (peer : String)
  | nothing
  | failed (error : ReplicationError)

namespace Network

/-- No listener and no line. -/
def empty : Network := ⟨.empty, .empty, .empty, 0⟩

instance : Inhabited Network := ⟨empty⟩

/-- How many lines may wait for a listener. -/
def queueBound : Nat := 64

/-! ### Listeners -/

/-- Let dialers find no listener at an endpoint. -/
def release (n : Network) (endpoint : String) : Network :=
  match n.endpoints.get? endpoint with
  | none => n
  | some id =>
    { n with
      endpoints := n.endpoints.erase endpoint
      listeners := n.listeners.adjust id fun l => { l with bound := false } }

/-- Listen at a URL, in place of the listener before. -/
def bind (n : Network) (url : String) : Nat × Network :=
  let endpoint := Text.asciiLower url
  let n := n.release endpoint
  (n.next,
    { n with
      endpoints := n.endpoints.insert endpoint n.next
      listeners := n.listeners.insert n.next ⟨url, [], true⟩
      next := n.next + 1 })

/-- Let dialers find no listener at a URL; lines that wait are still accepted. -/
def unbind (n : Network) (url : String) : Network := n.release (Text.asciiLower url)

/-- Shut a line. -/
def shutLine (n : Network) (line : Nat) : Network :=
  { n with lines := n.lines.adjust line Line.shut }

/-- Give a listener up, and the lines that wait for it. -/
def dropListener (n : Network) (id : Nat) : Network :=
  match n.listeners.get? id with
  | none => n
  | some l => l.waiting.foldl shutLine { n with listeners := n.listeners.erase id }

/-- The listener that a URL leads to; slashes at its end count for nothing. -/
def listenerAt? (n : Network) (url : String) : Option (Nat × Listener) := do
  let id ← n.endpoints.get? (Text.asciiLower (Text.trimSlashes url))
  let l ← n.listeners.get? id
  return (id, l)

/-- Whether a dialer of a URL has to wait for the listener to catch up. -/
def isBusy (n : Network) (url : String) : Bool :=
  match n.listenerAt? url with
  | some (_, l) => queueBound ≤ l.waiting.length
  | none => false

/-- Dial a URL. -/
def connect (n : Network) (url : String) : Outcome (LineEnd × Network) :=
  match n.listenerAt? url with
  | none => .error (.transient ("connection to " ++ url ++ " refused"))
  | some (id, l) =>
    .ok (⟨n.next, .dialer⟩,
      { n with
        listeners := n.listeners.insert id { l with waiting := l.waiting ++ [n.next] }
        lines := n.lines.insert n.next .fresh
        next := n.next + 1 })

/-- Accept the line that waits longest. -/
def accept (n : Network) (id : Nat) : Accepted × Network :=
  match n.listeners.get? id with
  | none => (.nothing, n)
  | some l =>
    match l.waiting with
    | line :: rest =>
      (.arrived ⟨line, .acceptor⟩ (l.url ++ " peer"),
        { n with listeners := n.listeners.insert id { l with waiting := rest } })
    | [] =>
      if l.bound then (.nothing, n)
      else (.failed (.cancelled ("listener " ++ l.url ++ " was unbound")), n)

/-! ### Bytes -/

/-- What can be read at an end. -/
def available (n : Network) (e : LineEnd) : Pipe :=
  match n.lines.get? e.line with
  | some l => l.toward e.side
  | none => { Pipe.fresh with closed := true }

/-- Change what is on its way to an end. -/
def change (n : Network) (e : LineEnd) (f : Pipe → Pipe) : Network :=
  { n with lines := n.lines.adjust e.line fun l => l.change e.side f }

/-- Write at an end, whether or not there is room. -/
def write (n : Network) (e : LineEnd) (bytes : List UInt8) : Outcome Network :=
  if (n.available ⟨e.line, e.side.other⟩).closed then .error (.transient "broken pipe")
  else .ok (n.change ⟨e.line, e.side.other⟩ fun p => { p with bytes := p.bytes ++ bytes })

/-- Write as many of some bytes at an end as there is room for: the bytes left over. -/
def push (n : Network) (e : LineEnd) (bytes : List UInt8) : List UInt8 × Network :=
  let far : LineEnd := ⟨e.line, e.side.other⟩
  match (n.available far).fill bytes with
  | (pipe, rest) => (rest, n.change far fun _ => pipe)

/-- Leave only some bytes to be read at an end. -/
def leave (n : Network) (e : LineEnd) (rest : List UInt8) : Network :=
  n.change e fun p => { p with bytes := rest }

/-- Take off at an end what comes as it comes, or let it wait there. -/
def readAhead (n : Network) (e : LineEnd) (eager : Bool) : Network :=
  n.change e fun p => { p with eager }

/-- Give an end up. -/
def close (n : Network) (e : LineEnd) : Network := n.shutLine e.line

end Network

end HubReplication
