/-!
# Ticking at a steady pace

A pacer calls a tick function, then sleeps for what is left of the interval since the tick began.
It stops after a number of ticks or when it is told to. Times are taken from any type with
subtraction and order, so that the same pacer runs on clock readings and is reasoned about on
exact numbers.
-/

set_option autoImplicit false

namespace LiveConsole.Cadence

/-- What a call of the surroundings did to the pacer: it may have asked it to stop, and it may
have failed. -/
structure Reaction (ε : Type) where
  stop : Bool
  failure : Option ε

/-- The surroundings of a pacer: a world that ticks, sleeps and tells the time. -/
structure Host (σ τ ε : Type) where
  clock : σ → τ
  tick : σ → Reaction ε × σ
  sleep : τ → σ → Reaction ε × σ

/-- What a pacer remembers. -/
structure Pacer (τ : Type) where
  interval : τ
  ticks : Nat
  stopped : Bool

/-- The interval of a pacer that is given none. -/
def defaultInterval : Float := 0.1

namespace Pacer

variable {σ τ ε : Type}

/-- A new pacer; an interval below zero is refused. -/
def new? [LT τ] [DecidableLT τ] [OfNat τ 0] (interval : τ) : Option (Pacer τ) :=
  if interval < 0 then none else some ⟨interval, 0, false⟩

def stop (p : Pacer τ) : Pacer τ :=
  { p with stopped := true }

/-- Takes over a request to stop. -/
def absorb (p : Pacer τ) (r : Reaction ε) : Pacer τ :=
  { p with stopped := p.stopped || r.stop }

/-- One tick, counted unless it fails. -/
def step (host : Host σ τ ε) (p : Pacer τ) (w : σ) : Except ε Unit × Pacer τ × σ :=
  let (r, w) := host.tick w
  let p := p.absorb r
  match r.failure with
  | some e => (.error e, p, w)
  | none => (.ok (), { p with ticks := p.ticks + 1 }, w)

/-- How a run ended: with the number of ticks it ran, with a failure, or not within the rounds
it was given. -/
inductive Ending (ε : Type) where
  | finished (ran : Nat)
  | failed (e : ε)
  | unfinished

/-- Whether a limit on the ticks, if there is one, is reached. -/
def reached (limit : Option Int) (ran : Nat) : Bool :=
  match limit with
  | none => false
  | some n => n ≤ ran

/-- Rounds of tick and sleep after `ran` ticks; at most `rounds` of them. -/
def rounds [Sub τ] [LT τ] [DecidableLT τ] [OfNat τ 0] (host : Host σ τ ε) (limit : Option Int) :
    (rounds : Nat) → (ran : Nat) → Pacer τ → σ → Ending ε × Pacer τ × σ
  | 0, _, p, w => (.unfinished, p, w)
  | more + 1, ran, p, w =>
    if p.stopped || reached limit ran then (.finished ran, p, w)
    else
      let started := host.clock w
      match step host p w with
      | (.error e, p, w) => (.failed e, p, w)
      | (.ok (), p, w) =>
        if p.stopped || reached limit (ran + 1) then (.finished (ran + 1), p, w)
        else
          let remaining := p.interval - (host.clock w - started)
          if 0 < remaining then
            let (r, w) := host.sleep remaining w
            let p := p.absorb r
            match r.failure with
            | some e => (.failed e, p, w)
            | none => rounds host limit more (ran + 1) p w
          else rounds host limit more (ran + 1) p w

/-- Ticks until told to stop or until the limit is reached. An earlier request to stop is
forgotten. -/
def run [Sub τ] [LT τ] [DecidableLT τ] [OfNat τ 0] (host : Host σ τ ε) (limit : Option Int)
    (bound : Nat) (p : Pacer τ) (w : σ) : Ending ε × Pacer τ × σ :=
  rounds host limit bound 0 { p with stopped := false } w

end Pacer

end LiveConsole.Cadence
