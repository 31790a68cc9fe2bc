import LiveConsole.Proofs.Net.Listening

/-!
# Ways to take a client and a line

Every way in which a listener can look for a client, and every way in which it can be asked for a line,
in any network.
-/

namespace LiveConsole.Net
set_option autoImplicit false

variable {W H : Type} [Sockets W H]

/-- The ways to look for a client while none is held. -/
inductive Looking (l : Listener H) (server : H) (w : W) : Except Fault Bool × Listener H × W → Prop
    where
  | nobody {f : Fault} {w' : W} (hr : Sockets.accept server w = (.error f, w')) :
      Looking l server w (if f.isA .systemError then .ok false else .error f, l, w')
  | caller {h : H} {e : Endpoint} {w' w'' : W} (hr : Sockets.accept server w = (.ok (h, e), w'))
      (ht : Sockets.setTimeout h (Listener.timeout l.settings) w' = (.ok (), w'')) :
      Looking l server w (.ok true, { l with client := some h, buffer := [] },
        Sockets.note (.clientConnected e) w'')
  | untimed {h : H} {e : Endpoint} {f : Fault} {w' w'' : W}
      (hr : Sockets.accept server w = (.ok (h, e), w'))
      (ht : Sockets.setTimeout h (Listener.timeout l.settings) w' = (.error f, w''))
      (hf : f.isA .systemError = false) : Looking l server w (.error f, l, w'')
  | unusable {h : H} {e : Endpoint} {f : Fault} {a : Except Fault Unit} {w' w'' w₁ : W}
      (hr : Sockets.accept server w = (.ok (h, e), w'))
      (ht : Sockets.setTimeout h (Listener.timeout l.settings) w' = (.error f, w''))
      (hf : f.isA .systemError = true)
      (hclose : Sockets.close h (Sockets.note (.clientUnusable e f) w'') = (a, w₁)) :
      Looking l server w (a.map fun _ => false, l, w₁)

/-- The ways to get a line, with its octets. -/
inductive Reading (l : Listener H) (h : H) (w : W) : List UInt8 → Listener H → W → Prop where
  | buffered {line rest : List UInt8} (hline : newline ∉ line)
      (hl : l.buffer = line ++ newline :: rest) : Reading l h w line { l with buffer := rest } w
  | completed {chunk line rest : List UInt8} {w' : W} (hb : newline ∉ l.buffer)
      (hr : Sockets.receive h l.settings.recvSize w = (.ok chunk, w')) (hline : newline ∉ line)
      (hl : l.buffer ++ chunk = line ++ newline :: rest) :
      Reading l h w line { l with buffer := rest } w'

/-- The ways to be asked for a line while a client is held. -/
inductive Asking (l : Listener H) (h : H) (w : W) :
    Except Fault (Option Text) × Listener H × W → Prop where
  | line {line : List UInt8} {l' : Listener H} {w' : W} (hread : Reading l h w line l' w') :
      Asking l h w (.ok (some (lineText line)), l', w')
  | kept {chunk : List UInt8} {w' : W} (hb : newline ∉ l.buffer)
      (hr : Sockets.receive h l.settings.recvSize w = (.ok chunk, w')) :
      Asking l h w (.ok none, { l with buffer := l.buffer ++ chunk }, w')
  | quiet {f : Fault} {w' : W} (hb : newline ∉ l.buffer)
      (hr : Sockets.receive h l.settings.recvSize w = (.error f, w')) :
      Asking l h w (if f.isA .systemError then .ok none else .error f, l, w')
  | overlong {chunk : List UInt8} {w' : W} (hb : newline ∉ l.buffer)
      (hr : Sockets.receive h l.settings.recvSize w = (.ok chunk, w')) :
      Asking l h w (Listener.dropping (Listener.dropClient { l with buffer := l.buffer ++ chunk }
        (Sockets.note (.lineTooLong l.settings.maxLine) w')))
  | ended {a : Except Fault (List UInt8)} {w' : W} (hb : newline ∉ l.buffer)
      (hr : Sockets.receive h l.settings.recvSize w = (a, w')) (hend : Ends a) :
      Asking l h w (Listener.dropping (Listener.dropClient l
        (Sockets.note .clientDisconnected w')))

namespace Listener

variable {l : Listener H} {h server : H}

theorem looking (hs : l.server = some server) (hc : l.client = none) (w : W) :
    Looking l server w (acceptIfNone l w) := by
  rcases hr : Sockets.accept server w with ⟨f | ⟨k, e⟩, w'⟩
  · rw [acceptIfNone_of_nobody hs hc hr]
    exact .nobody hr
  · rcases ht : Sockets.setTimeout k (timeout l.settings) w' with ⟨f | u, w''⟩
    · cases hf : f.isA .systemError with
      | false =>
        rw [acceptIfNone_of_untimed hs hc hr ht hf]
        exact .untimed hr ht hf
      | true =>
        rw [acceptIfNone_of_unusable hs hc hr ht hf rfl]
        exact .unusable hr ht hf rfl
    · rw [acceptIfNone_of_caller hs hc hr ht]
      exact .caller hr ht

theorem asking (hc : l.client = some h) (w : W) : Asking l h w (receiveLine l w) := by
  rcases splitLine?_cases l.buffer with ⟨hb, _⟩ | ⟨line, rest, hline, hl, _⟩
  · rcases hr : Sockets.receive h l.settings.recvSize w with ⟨a, w'⟩
    by_cases hend : Ends a
    · rw [receiveLine_of_ends hc hb hr hend]
      exact .ended hb hr hend
    · cases a with
      | error f =>
        have hf : f.isA .connectionError = false :=
          Bool.eq_false_iff.mpr fun hf => hend (.inr ⟨f, rfl, hf⟩)
        rw [receiveLine_of_fault hc hb hr hf]
        exact .quiet hb hr
      | ok chunk =>
        have hchunk : chunk ≠ [] := fun hnil => hend (.inl (congrArg Except.ok hnil))
        rcases splitLine?_cases (l.buffer ++ chunk) with ⟨hn, _⟩ | ⟨line, rest, hline, hl, _⟩
        · by_cases hle : (l.buffer ++ chunk).length ≤ l.settings.maxLine
          · rw [receiveLine_of_kept hc hb hr hchunk hn hle]
            exact .kept hb hr
          · rw [receiveLine_of_overlong hc hb hr hchunk hn (Nat.lt_of_not_le hle)]
            exact .overlong hb hr
        · rw [receiveLine_of_completed hc hb hr hchunk hline hl]
          exact .line (.completed hb hr hline hl)
  · rw [receiveLine_of_buffered hc hline hl]
    exact .line (.buffered hline hl)

end Listener

namespace Reading

variable {l l' : Listener H} {h : H} {w w' : W} {line : List UInt8}

/-- The line is taken off what was there, and nothing else is. -/
theorem eq_with_buffer (hread : Reading l h w line l' w') :
    newline ∉ line ∧ l' = { l with buffer := l'.buffer } := by
  cases hread with
  | buffered hline hl => exact ⟨hline, rfl⟩
  | completed hb hr hline hl => exact ⟨hline, rfl⟩

end Reading

end LiveConsole.Net
