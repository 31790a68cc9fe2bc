import LiveConsole.Net.Listener
import LiveConsole.Proofs.Net.Frames
import LiveConsole.Proofs.Net.Recording

/-!
# What a listener does with each answer of its sockets

One statement for each way in which a call of a listener can go, in any network. Faults are those of
the socket system; the listener and the world after the call are named in full.
-/

namespace LiveConsole.Net.Listener
set_option autoImplicit false

variable {W H : Type} [Sockets W H]

theorem popLine_of_not_mem {l : Listener H} (h : newline ∉ l.buffer) : popLine l = (none, l) := by
  rw [popLine, splitLine?_of_not_mem h]

theorem popLine_of_line {l : Listener H} {line rest : List UInt8} (hline : newline ∉ line)
    (hl : l.buffer = line ++ newline :: rest) :
    popLine l = (some (lineText line), { l with buffer := rest }) := by
  have hsplit : splitLine? l.buffer = some (line, rest) := by
    rw [hl]
    exact splitLine?_append rest hline
  rw [popLine, hsplit]

theorem receiveLine_of_buffered {l : Listener H} {h : H} {line rest : List UInt8}
    (hc : l.client = some h) (hline : newline ∉ line) (hl : l.buffer = line ++ newline :: rest)
    (w : W) :
    receiveLine l w = (.ok (some (lineText line)), { l with buffer := rest }, w) := by
  have hsplit : splitLine? l.buffer = some (line, rest) := by
    rw [hl]
    exact splitLine?_append rest hline
  exact receiveLine_of_line hc hsplit w

/-- A listener without its client. -/
def alone (l : Listener H) : Listener H := { l with client := none, buffer := [] }

theorem dropClient_of_client {l : Listener H} {h : H} {w w' : W} {a : Except Fault Unit}
    (hc : l.client = some h) (hclose : Sockets.close h w = (a, w')) (ha : Systemic a) :
    dropClient l w = (.ok (), l.alone, w') := by
  cases a with
  | ok u => simp [dropClient, hc, hclose, alone]
  | error f => simp [dropClient, hc, hclose, alone, ha f rfl]

theorem dropClient_of_no_client {l : Listener H} (hc : l.client = none) (w : W) :
    dropClient l w = (.ok (), l.alone, w) := by
  simp [dropClient, hc, alone]

section Close
variable {l : Listener H} {w w' w'' : W} (hdrop : dropClient l w = (.ok (), l.alone, w'))
include hdrop

theorem close_of_no_server (hs : l.server = none) :
    close l w = (.ok (), { l.alone with server := none }, w') := by
  simp [close, hdrop, alone, hs]

theorem close_of_server {h : H} (hs : l.server = some h)
    (hclose : Sockets.close h w' = (.ok (), w'')) :
    close l w = (.ok (), { l.alone with server := none }, w'') := by
  simp [close, hdrop, alone, hs, hclose]

end Close

section Read
variable {l : Listener H} {h : H} {w w' : W} (hc : l.client = some h) (hb : newline ∉ l.buffer)
include hc hb

/-- With no line in the buffer, what was received is taken in. -/
theorem receiveLine_of_chunk {chunk : List UInt8}
    (hr : Sockets.receive h l.settings.recvSize w = (.ok chunk, w')) (hchunk : chunk ≠ []) :
    receiveLine l w = takeChunk l chunk w' := by
  obtain ⟨b, bs, rfl⟩ := List.exists_cons_of_ne_nil hchunk
  rw [receiveLine, hc]
  simp only [popLine_of_not_mem hb, receiveChunk, hr]

/-- A chunk that completes a line. -/
theorem receiveLine_of_completed {chunk line rest : List UInt8}
    (hr : Sockets.receive h l.settings.recvSize w = (.ok chunk, w')) (hchunk : chunk ≠ [])
    (hline : newline ∉ line) (hl : l.buffer ++ chunk = line ++ newline :: rest) :
    receiveLine l w = (.ok (some (lineText line)), { l with buffer := rest }, w') := by
  have hpop : popLine { l with buffer := l.buffer ++ chunk } =
      (some (lineText line), { l with buffer := rest }) := popLine_of_line hline hl
  rw [receiveLine_of_chunk hc hb hr hchunk, takeChunk, hpop]

/-- A chunk after which the line is still short enough. -/
theorem receiveLine_of_kept {chunk : List UInt8}
    (hr : Sockets.receive h l.settings.recvSize w = (.ok chunk, w')) (hchunk : chunk ≠ [])
    (hn : newline ∉ l.buffer ++ chunk)
    (hle : (l.buffer ++ chunk).length ≤ l.settings.maxLine) :
    receiveLine l w = (.ok none, { l with buffer := l.buffer ++ chunk }, w') := by
  have hpop : popLine { l with buffer := l.buffer ++ chunk } =
      (none, { l with buffer := l.buffer ++ chunk }) := popLine_of_not_mem hn
  rw [receiveLine_of_chunk hc hb hr hchunk, takeChunk, hpop]
  exact if_neg (Nat.not_lt.mpr hle)

/-- A fault of another kind than the loss of the connection leaves the client alone. -/
theorem receiveLine_of_fault {f : Fault}
    (hr : Sockets.receive h l.settings.recvSize w = (.error f, w'))
    (hf : f.isA .connectionError = false) :
    receiveLine l w = (if f.isA .systemError then .ok none else .error f, l, w') := by
  rw [receiveLine, hc]
  cases hs : f.isA .systemError <;> simp [popLine_of_not_mem hb, receiveChunk, hr, hf, hs]

/-- A chunk after which the line is too long. -/
theorem receiveLine_of_overlong {chunk : List UInt8}
    (hr : Sockets.receive h l.settings.recvSize w = (.ok chunk, w')) (hchunk : chunk ≠ [])
    (hn : newline ∉ l.buffer ++ chunk)
    (hlt : l.settings.maxLine < (l.buffer ++ chunk).length) :
    receiveLine l w = dropping (dropClient { l with buffer := l.buffer ++ chunk }
      (Sockets.note (.lineTooLong l.settings.maxLine) w')) := by
  have hpop : popLine { l with buffer := l.buffer ++ chunk } =
      (none, { l with buffer := l.buffer ++ chunk }) := popLine_of_not_mem hn
  rw [receiveLine_of_chunk hc hb hr hchunk, takeChunk, hpop]
  exact if_pos hlt

/-- The end of the stream, or the loss of the connection. -/
theorem receiveLine_of_ends {r : Except Fault (List UInt8)}
    (hr : Sockets.receive h l.settings.recvSize w = (r, w')) (hend : Ends r) :
    receiveLine l w = dropping (dropClient l (Sockets.note .clientDisconnected w')) := by
  have hchunk : receiveChunk h l.settings.recvSize w = (.ok (some []), w') := by
    rcases hend with rfl | ⟨f, rfl, hf⟩
    · simp [receiveChunk, hr]
    · simp [receiveChunk, hr, hf]
  rw [receiveLine, hc]
  simp only [popLine_of_not_mem hb, hchunk]

end Read

section Accept
variable {l : Listener H} {server : H} {w w' w'' : W} (hs : l.server = some server)
variable (hc : l.client = none)

theorem acceptIfNone_of_client {h : H} (hc : l.client = some h) (w : W) :
    acceptIfNone l w = (.ok false, l, w) := by
  cases hs : l.server <;> simp [acceptIfNone, hs, hc]

include hs hc

theorem acceptIfNone_of_nobody {f : Fault} (hr : Sockets.accept server w = (.error f, w')) :
    acceptIfNone l w = (if f.isA .systemError then .ok false else .error f, l, w') := by
  cases hf : f.isA .systemError <;> simp [acceptIfNone, hs, hc, hr, hf]

theorem acceptIfNone_of_caller {h : H} {e : Endpoint}
    (hr : Sockets.accept server w = (.ok (h, e), w'))
    (ht : Sockets.setTimeout h (timeout l.settings) w' = (.ok (), w'')) :
    acceptIfNone l w = (.ok true, { l with client := some h, buffer := [] },
      Sockets.note (.clientConnected e) w'') := by
  simp [acceptIfNone, hs, hc, hr, ht]

theorem acceptIfNone_of_untimed {h : H} {e : Endpoint} {f : Fault}
    (hr : Sockets.accept server w = (.ok (h, e), w'))
    (ht : Sockets.setTimeout h (timeout l.settings) w' = (.error f, w''))
    (hf : f.isA .systemError = false) : acceptIfNone l w = (.error f, l, w'') := by
  simp [acceptIfNone, hs, hc, hr, ht, hf]

theorem acceptIfNone_of_unusable {h : H} {e : Endpoint} {f : Fault} {w₁ : W}
    {a : Except Fault Unit} (hr : Sockets.accept server w = (.ok (h, e), w'))
    (ht : Sockets.setTimeout h (timeout l.settings) w' = (.error f, w''))
    (hf : f.isA .systemError = true)
    (hclose : Sockets.close h (Sockets.note (.clientUnusable e f) w'') = (a, w₁)) :
    acceptIfNone l w = (a.map fun _ => false, l, w₁) := by
  cases a <;> simp [acceptIfNone, hs, hc, hr, ht, hf, hclose, Except.map]

end Accept

end LiveConsole.Net.Listener
