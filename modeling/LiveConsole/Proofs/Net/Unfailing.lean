import LiveConsole.Proofs.Net.Orderly
import LiveConsole.Proofs.Net.Reception

/-!
# Listeners in orderly networks

In an orderly network no call of a listener is answered with an error, except that it cannot be bound.
-/

namespace LiveConsole.Net.Listener
set_option autoImplicit false

variable {W H : Type} [Sockets W H] (hW : Orderly W) (l : Listener H) (w : W)
include hW

theorem dropClient_orderly : ∃ w', dropClient l w = (.ok (), l.alone, w') := by
  cases hc : l.client with
  | none => exact ⟨w, dropClient_of_no_client hc w⟩
  | some h =>
    rcases hclose : Sockets.close h w with ⟨a, w'⟩
    obtain rfl := hW.close hclose
    exact ⟨w', dropClient_of_client hc hclose fun f hf => by contradiction⟩

theorem close_orderly : ∃ w', close l w = (.ok (), { l.alone with server := none }, w') := by
  obtain ⟨w₁, hdrop⟩ := dropClient_orderly hW l w
  cases hs : l.server with
  | none => exact ⟨w₁, close_of_no_server hdrop hs⟩
  | some h =>
    rcases hclose : Sockets.close h w₁ with ⟨a, w₂⟩
    obtain rfl := hW.close hclose
    exact ⟨w₂, close_of_server hdrop hs hclose⟩

theorem acceptIfNone_orderly : ∃ b l' w', acceptIfNone l w = (.ok b, l', w') := by
  cases hc : l.client with
  | some h => exact ⟨_, _, _, acceptIfNone_of_client hc w⟩
  | none =>
    cases hs : l.server with
    | none => exact ⟨false, l, w, by simp [acceptIfNone, hs]⟩
    | some server =>
      have hlooking := looking hs hc w
      generalize acceptIfNone l w = out at hlooking
      cases hlooking with
      | nobody hr => exact ⟨_, _, _, by rw [if_pos (hW.accept hr)]⟩
      | caller => exact ⟨_, _, _, rfl⟩
      | untimed hr ht hf =>
        rw [hW.starts.setTimeout ht] at hf
        contradiction
      | unusable hr ht hf hclose =>
        obtain rfl := hW.close hclose
        exact ⟨_, _, _, rfl⟩

theorem receiveLine_orderly : ∃ line? l' w', receiveLine l w = (.ok line?, l', w') := by
  have hdrop (l : Listener H) (w : W) :
      ∃ line? l' w', dropping (dropClient l w) = (.ok line?, l', w') := by
    obtain ⟨w', hdrop⟩ := dropClient_orderly hW l w
    exact ⟨none, l.alone, w', by rw [dropping, hdrop]; rfl⟩
  cases hc : l.client with
  | none => exact ⟨_, _, _, receiveLine_of_no_client hc w⟩
  | some h =>
    have hasking := asking hc w
    generalize receiveLine l w = out at hasking
    cases hasking with
    | line => exact ⟨_, _, _, rfl⟩
    | kept => exact ⟨_, _, _, rfl⟩
    | quiet _ hr => exact ⟨_, _, _, by rw [if_pos (hW.receive hr)]⟩
    | overlong => exact hdrop _ _
    | ended => exact hdrop _ _

theorem send_orderly (data : List UInt8) : ∃ b w', send l data w = (.ok b, w') := by
  cases hc : l.client with
  | none => exact ⟨false, w, by simp [send, hc]⟩
  | some h =>
    rcases hsend : Sockets.sendAll h data w with ⟨f | u, w'⟩
    · exact ⟨false, Sockets.note (.sendFailed f) w', by simp [send, hc, hsend, hW.sendAll hsend]⟩
    · exact ⟨true, w', by simp [send, hc, hsend]⟩

end LiveConsole.Net.Listener
