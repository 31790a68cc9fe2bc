import LiveConsole.Net.Sockets

/-!
# Orderly networks

Networks by the faults with which their calls fail. In an orderly network every fault is one of the
socket system, and sockets can always be closed.
-/

namespace LiveConsole.Net
set_option autoImplicit false

/-- The calls that make a socket listen fail only with certain faults. -/
structure Starts (W : Type) {H : Type} [Sockets W H] (P : Fault → Prop) : Prop where
  create {w w' : W} {f : Fault} (h : Sockets.create w = (.error f, w')) : P f
  reuseAddress {s : H} {w w' : W} {f : Fault} (h : Sockets.reuseAddress s w = (.error f, w')) : P f
  bind {s : H} {host : Datum} {port : Nat} {w w' : W} {f : Fault}
    (h : Sockets.bind s host port w = (.error f, w')) : P f
  listen {s : H} {backlog : Nat} {w w' : W} {f : Fault}
    (h : Sockets.listen s backlog w = (.error f, w')) : P f
  setTimeout {s : H} {t : Datum.Quantity} {w w' : W} {f : Fault}
    (h : Sockets.setTimeout s t w = (.error f, w')) : P f

structure Orderly (W : Type) {H : Type} [Sockets W H] : Prop where
  starts : Starts W fun f => f.isA .systemError = true
  endpoint {s : H} {w w' : W} {f : Fault} (h : Sockets.endpoint s w = (.error f, w')) :
    f.isA .systemError = true
  accept {s : H} {w w' : W} {f : Fault} (h : Sockets.accept s w = (.error f, w')) :
    f.isA .systemError = true
  receive {s : H} {size : Nat} {w w' : W} {f : Fault}
    (h : Sockets.receive s size w = (.error f, w')) : f.isA .systemError = true
  sendAll {s : H} {data : List UInt8} {w w' : W} {f : Fault}
    (h : Sockets.sendAll s data w = (.error f, w')) : f.isA .systemError = true
  close {s : H} {w w' : W} {a : Except Fault Unit} (h : Sockets.close s w = (a, w')) : a = .ok ()

end LiveConsole.Net
