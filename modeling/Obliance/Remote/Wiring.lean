import Mathlib.Order.Nat
import Obliance.Remote.Session

/-!
# What the operations of the relay wire

* `Relay.Wired` : listeners, tunnel objects and the entry refer to sockets and objects that exist;
* `Relay.Cut` : no socket that still receives has a listener whose target is open;
* `Relay.Quiets`, `Relay.Closes` : operations that wire nothing, and of these the ones that move no frame;
* `Relay.EarlyOut`, `Relay.EarlyBuffers` : the frames handed over, and those that wait, came in before
  the row ended;
* one lemma for each operation and each of these.
-/

namespace Obliance.Remote
namespace Relay

/-- Every socket that still receives sends to sockets that take nothing. -/
def Cut (r : Relay) : Prop :=
  ∀ ws < r.sockets.length, r.readyState ws ≠ .closed →
    ∀ h ∈ r.handlersOf ws, ∀ w ∈ r.target h, r.readyState w ≠ .live

instance (r : Relay) : Decidable r.Cut :=
  inferInstanceAs (Decidable (∀ ws < r.sockets.length, r.readyState ws ≠ .closed →
    ∀ h ∈ r.handlersOf ws, ∀ w ∈ r.target h, r.readyState w ≠ .live))

/-- No agent that listens for the tunnel is left, and no frame that came in after the end waits in it. -/
def AgentGone (r : Relay) (t : ℕ) : Prop :=
  (∀ ws < r.sockets.length, .toBrowser t ∈ r.handlersOf ws → r.readyState ws = .closed) ∧
    ∀ f ∈ r.bufferOf t, f.rowStatus.isOpen

instance (r : Relay) (t : ℕ) : Decidable (r.AgentGone t) := inferInstanceAs (Decidable (_ ∧ _))

def BrowserGone (r : Relay) (t : ℕ) : Prop := ∀ b ∈ r.browserOf t, r.readyState b = .closed

instance (r : Relay) (t : ℕ) : Decidable (r.BrowserGone t) :=
  inferInstanceAs (Decidable (∀ b ∈ r.browserOf t, r.readyState b = .closed))

structure Wired (r : Relay) : Prop where
  toBrowser : ∀ ws t, .toBrowser t ∈ r.handlersOf ws → t < r.objects.length
  toAgent : ∀ ws a, .toAgent a ∈ r.handlersOf ws → a < r.sockets.length
  browser : ∀ t, ∀ b ∈ r.browserOf t, b < r.sockets.length
  /-- the agent of a tunnel listens for it -/
  agent : ∀ t, ∀ a ∈ r.agentOf t, .toBrowser t ∈ r.handlersOf a
  entry : ∀ t ∈ r.entry, t < r.objects.length

/-- The frames handed over came in before the end. -/
def EarlyOut (r : Relay) : Prop := ∀ d ∈ r.delivered, d.frame.rowStatus.isOpen

/-- The frames in a buffer came in before the end. -/
def EarlyBuffers (r : Relay) : Prop := ∀ t, ∀ f ∈ r.bufferOf t, f.rowStatus.isOpen

section Views
variable {r : Relay} {ws w t u b a : ℕ} {h k : Handler} {f : Frame}

theorem lt_of_mem_handlersOf (h : k ∈ r.handlersOf ws) : ws < r.sockets.length := by
  unfold handlersOf at h
  by_contra hlt
  rw [List.getElem?_eq_none (Nat.le_of_not_lt hlt)] at h
  exact absurd h List.not_mem_nil

theorem Cut.apply (hcut : r.Cut) (hws : r.readyState ws ≠ .closed) (hh : h ∈ r.handlersOf ws)
    (hw : w ∈ r.target h) : r.readyState w ≠ .live :=
  hcut ws (lt_of_mem_handlersOf hh) hws h hh w hw

theorem Wired.target (hr : r.Wired) (hh : h ∈ r.handlersOf ws) (hw : w ∈ r.target h) :
    w < r.sockets.length := by
  cases h with
  | toBrowser t => exact hr.browser t w hw
  | toAgent a =>
      cases hw
      exact hr.toAgent ws w hh

theorem wired_empty : empty.Wired where
  toBrowser _ _ h := absurd h List.not_mem_nil
  toAgent _ _ h := absurd h List.not_mem_nil
  browser _ b h := absurd h (Option.not_mem_none b)
  agent _ a h := absurd h (Option.not_mem_none a)
  entry t h := absurd h (Option.not_mem_none t)

theorem Wired.agent_lt (hr : r.Wired) (ha : a ∈ r.agentOf t) : a < r.sockets.length :=
  lt_of_mem_handlersOf (hr.agent t a ha)

/-! ### Sockets -/

theorem readyState_accept :
    r.accept.readyState w = if w = r.sockets.length then .live else r.readyState w := by
  unfold readyState accept
  rw [List.getElem?_append]
  grind

theorem handlersOf_accept : r.accept.handlersOf w = r.handlersOf w := by
  unfold handlersOf accept
  rw [List.getElem?_append]
  grind

theorem readyState_listen : (r.listen ws h).readyState w = r.readyState w := by
  unfold readyState listen
  grind

theorem mem_handlersOf_listen :
    k ∈ (r.listen ws h).handlersOf w ↔
      k ∈ r.handlersOf w ∨ (w = ws ∧ ws < r.sockets.length ∧ k = h) := by
  unfold handlersOf listen
  grind

theorem readyState_close :
    (r.close ws).readyState w =
      if w = ws ∧ r.readyState w = .live then .closing else r.readyState w := by
  unfold readyState close
  grind

theorem handlersOf_close : (r.close ws).handlersOf w = r.handlersOf w := by
  unfold handlersOf close
  grind

theorem readyState_markClosed :
    (r.markClosed ws).readyState w = if w = ws then .closed else r.readyState w := by
  unfold readyState markClosed
  grind

theorem handlersOf_markClosed : (r.markClosed ws).handlersOf w = r.handlersOf w := by
  unfold handlersOf markClosed
  grind

/-! ### Tunnel objects -/

theorem mem_browserOf_setBrowser (h : w ∈ (r.setBrowser t b).browserOf u) :
    w ∈ r.browserOf u ∨ (u = t ∧ w = b) := by
  unfold browserOf setBrowser at h
  unfold browserOf
  grind

theorem agentOf_setBrowser : (r.setBrowser t b).agentOf u = r.agentOf u := by
  unfold agentOf setBrowser
  grind

theorem bufferOf_setBrowser : (r.setBrowser t b).bufferOf u = r.bufferOf u := by
  unfold bufferOf setBrowser
  grind

theorem mem_agentOf_setAgent (h : w ∈ (r.setAgent t b).agentOf u) :
    w ∈ r.agentOf u ∨ (u = t ∧ w = b) := by
  unfold agentOf setAgent at h
  unfold agentOf
  grind

theorem browserOf_setAgent : (r.setAgent t b).browserOf u = r.browserOf u := by
  unfold browserOf setAgent
  grind

theorem bufferOf_setAgent : (r.setAgent t b).bufferOf u = r.bufferOf u := by
  unfold bufferOf setAgent
  grind

theorem browserOf_pushFrame : (r.pushFrame t f).browserOf u = r.browserOf u := by
  unfold browserOf pushFrame
  grind

theorem agentOf_pushFrame : (r.pushFrame t f).agentOf u = r.agentOf u := by
  unfold agentOf pushFrame
  grind

theorem mem_bufferOf_pushFrame {g : Frame} (h : g ∈ (r.pushFrame t f).bufferOf u) :
    g ∈ r.bufferOf u ∨ g = f := by
  unfold bufferOf pushFrame at h
  unfold bufferOf
  grind

theorem browserOf_clearBuffer : (r.clearBuffer t).browserOf u = r.browserOf u := by
  unfold browserOf clearBuffer
  grind

theorem agentOf_clearBuffer : (r.clearBuffer t).agentOf u = r.agentOf u := by
  unfold agentOf clearBuffer
  grind

theorem mem_bufferOf_clearBuffer {g : Frame} (h : g ∈ (r.clearBuffer t).bufferOf u) : g ∈ r.bufferOf u := by
  unfold bufferOf clearBuffer at h
  unfold bufferOf
  grind

theorem browserOf_ensureTunnel : r.ensureTunnel.browserOf u = r.browserOf u := by
  unfold browserOf ensureTunnel
  grind

theorem agentOf_ensureTunnel : r.ensureTunnel.agentOf u = r.agentOf u := by
  unfold agentOf ensureTunnel
  grind

theorem bufferOf_ensureTunnel : r.ensureTunnel.bufferOf u = r.bufferOf u := by
  unfold bufferOf ensureTunnel
  grind

end Views

/-! ### Closing -/

/-- Nothing is wired, and sockets only go down. -/
structure Quiets (r r' : Relay) : Prop where
  sockets : r'.sockets.length = r.sockets.length
  objects : r'.objects.length = r.objects.length
  handlersOf : ∀ ws, r'.handlersOf ws = r.handlersOf ws
  browserOf : ∀ t, r'.browserOf t = r.browserOf t
  agentOf : ∀ t, r'.agentOf t = r.agentOf t
  entry : ∀ t ∈ r'.entry, t ∈ r.entry
  live : ∀ ws, r'.readyState ws = .live → r.readyState ws = .live
  closed : ∀ ws, r.readyState ws = .closed → r'.readyState ws = .closed

/-- And no frame moves. -/
structure Closes (r r' : Relay) : Prop extends Quiets r r' where
  delivered : r'.delivered = r.delivered
  bufferOf : ∀ t, r'.bufferOf t = r.bufferOf t

section Closing
variable {r r' r'' : Relay} {ws t b : ℕ} {f : Frame}

theorem Quiets.refl (r : Relay) : Quiets r r :=
  ⟨rfl, rfl, fun _ => rfl, fun _ => rfl, fun _ => rfl, fun _ h => h, fun _ h => h, fun _ h => h⟩

theorem Quiets.trans (h : Quiets r r') (h' : Quiets r' r'') : Quiets r r'' where
  sockets := h'.sockets.trans h.sockets
  objects := h'.objects.trans h.objects
  handlersOf ws := (h'.handlersOf ws).trans (h.handlersOf ws)
  browserOf t := (h'.browserOf t).trans (h.browserOf t)
  agentOf t := (h'.agentOf t).trans (h.agentOf t)
  entry t ht := h.entry t (h'.entry t ht)
  live ws hl := h.live ws (h'.live ws hl)
  closed ws hc := h'.closed ws (h.closed ws hc)

theorem Quiets.target (h : Quiets r r') (k : Handler) : r'.target k = r.target k := by
  cases k with
  | toBrowser t => exact h.browserOf t
  | toAgent a => rfl

theorem Wired.quiets (hr : r.Wired) (h : Quiets r r') : r'.Wired where
  toBrowser ws t hk := by
    rw [h.handlersOf] at hk
    rw [h.objects]
    exact hr.toBrowser ws t hk
  toAgent ws a hk := by
    rw [h.handlersOf] at hk
    rw [h.sockets]
    exact hr.toAgent ws a hk
  browser t b hb := by
    rw [h.browserOf] at hb
    rw [h.sockets]
    exact hr.browser t b hb
  agent t a ha := by
    rw [h.agentOf] at ha
    rw [h.handlersOf]
    exact hr.agent t a ha
  entry t ht := by
    rw [h.objects]
    exact hr.entry t (h.entry t ht)

theorem Cut.quiets (hr : r.Cut) (h : Quiets r r') : r'.Cut := by
  intro ws _ hws k hk w hw hlive
  rw [h.handlersOf] at hk
  rw [h.target] at hw
  exact hr.apply (mt (h.closed ws) hws) hk hw (h.live w hlive)

theorem Closes.refl (r : Relay) : Closes r r := ⟨.refl r, rfl, fun _ => rfl⟩

theorem Closes.trans (h : Closes r r') (h' : Closes r' r'') : Closes r r'' :=
  ⟨h.toQuiets.trans h'.toQuiets, h'.delivered.trans h.delivered,
    fun t => (h'.bufferOf t).trans (h.bufferOf t)⟩

theorem EarlyOut.closes (hr : r.EarlyOut) (h : Closes r r') : r'.EarlyOut := by
  intro d hd
  rw [h.delivered] at hd
  exact hr d hd

theorem EarlyBuffers.closes (hr : r.EarlyBuffers) (h : Closes r r') : r'.EarlyBuffers := by
  intro t f hf
  rw [h.bufferOf] at hf
  exact hr t f hf

theorem closes_close (r : Relay) (ws : ℕ) : Closes r (r.close ws) where
  sockets := List.length_modify ..
  objects := rfl
  handlersOf _ := handlersOf_close
  browserOf _ := rfl
  agentOf _ := rfl
  entry _ h := h
  live w h := by
    rw [readyState_close] at h
    split_ifs at h
    exact h
  closed w h := by
    rw [readyState_close, h, if_neg]
    exact fun hw => ReadyState.noConfusion hw.2
  delivered := rfl
  bufferOf _ := rfl

theorem closes_closeOpt (r : Relay) (ws : Option ℕ) : Closes r (r.closeOpt ws) := by
  cases ws with
  | none => exact .refl r
  | some ws => exact closes_close r ws

theorem closes_markClosed (r : Relay) (ws : ℕ) : Closes r (r.markClosed ws) where
  sockets := List.length_modify ..
  objects := rfl
  handlersOf _ := handlersOf_markClosed
  browserOf _ := rfl
  agentOf _ := rfl
  entry _ h := h
  live w h := by
    rw [readyState_markClosed] at h
    split_ifs at h
    exact h
  closed w h := by
    rw [readyState_markClosed, h, ite_self]
  delivered := rfl
  bufferOf _ := rfl

theorem closes_dropTunnel (r : Relay) : Closes r r.dropTunnel where
  sockets := rfl
  objects := rfl
  handlersOf _ := rfl
  browserOf _ := rfl
  agentOf _ := rfl
  entry _ h := by cases h
  live _ h := h
  closed _ h := h
  delivered := rfl
  bufferOf _ := rfl

theorem closes_teardown (r : Relay) (t : ℕ) : Closes r (r.teardown t) :=
  ((closes_dropTunnel r).trans (closes_closeOpt ..)).trans (closes_closeOpt ..)

theorem closes_hangUp (r : Relay) (ws : ℕ) : Closes r (r.hangUp ws) := by
  unfold hangUp
  refine Closes.trans ?_ (closes_close _ ws)
  split_ifs
  · exact (closes_dropTunnel r).trans (closes_closeOpt ..)
  · exact .refl r

end Closing

/-! ### Frames -/

section Frames
variable {r : Relay} {ws t : ℕ} {f : Frame} {k : Handler}

theorem quiets_send (r : Relay) (ws : ℕ) (f : Frame) : Quiets r (r.send ws f) := by
  unfold send
  split_ifs
  · exact ⟨rfl, rfl, fun _ => rfl, fun _ => rfl, fun _ => rfl, fun _ h => h, fun _ h => h, fun _ h => h⟩
  · exact .refl r

theorem quiets_pushFrame (r : Relay) (t : ℕ) (f : Frame) : Quiets r (r.pushFrame t f) where
  sockets := rfl
  objects := List.length_modify ..
  handlersOf _ := rfl
  browserOf _ := browserOf_pushFrame
  agentOf _ := agentOf_pushFrame
  entry _ h := h
  live _ h := h
  closed _ h := h

theorem quiets_clearBuffer (r : Relay) (t : ℕ) : Quiets r (r.clearBuffer t) where
  sockets := rfl
  objects := List.length_modify ..
  handlersOf _ := rfl
  browserOf _ := browserOf_clearBuffer
  agentOf _ := agentOf_clearBuffer
  entry _ h := h
  live _ h := h
  closed _ h := h

theorem quiets_onMessage (r : Relay) (f : Frame) (k : Handler) : Quiets r (r.onMessage f k) := by
  cases k with
  | toAgent a => exact quiets_send r a f
  | toBrowser t =>
      show Quiets r ((r.browserOf t).elim _ _)
      cases r.browserOf t with
      | none => exact quiets_pushFrame r t f
      | some b => exact quiets_send r b f

theorem quiets_sends (ws : ℕ) (fs : List Frame) (r : Relay) :
    Quiets r (fs.foldl (fun r f => r.send ws f) r) := by
  induction fs generalizing r with
  | nil => exact .refl r
  | cons f fs ih => exact (quiets_send r ws f).trans (ih _)

theorem quiets_onMessages (f : Frame) (ks : List Handler) (r : Relay) :
    Quiets r (ks.foldl (fun r k => r.onMessage f k) r) := by
  induction ks generalizing r with
  | nil => exact .refl r
  | cons k ks ih => exact (quiets_onMessage r f k).trans (ih _)

theorem readyState_send : (r.send ws f).readyState = r.readyState := by
  unfold send
  split_ifs <;> rfl

theorem readyState_onMessage (r : Relay) (f : Frame) (k : Handler) :
    (r.onMessage f k).readyState = r.readyState := by
  cases k with
  | toAgent a => exact readyState_send
  | toBrowser t =>
      show readyState ((r.browserOf t).elim _ _) = r.readyState
      cases r.browserOf t with
      | none => rfl
      | some b => exact readyState_send

theorem bufferOf_send : (r.send ws f).bufferOf t = r.bufferOf t := by
  unfold send
  split_ifs <;> rfl

theorem bufferOf_sends (fs : List Frame) : (fs.foldl (fun r f => r.send ws f) r).bufferOf t = r.bufferOf t := by
  induction fs generalizing r with
  | nil => rfl
  | cons f fs ih =>
      rw [List.foldl_cons, ih]
      exact bufferOf_send

theorem earlyOut_send (hr : r.EarlyOut) (hf : r.readyState ws = .live → f.rowStatus.isOpen) :
    (r.send ws f).EarlyOut := by
  unfold send
  split_ifs with hlive
  · intro d hd
    obtain hd | hd := List.mem_append.mp hd
    · exact hr d hd
    · rw [List.mem_singleton] at hd
      subst hd
      exact hf hlive
  · exact hr

theorem earlyOut_sends (fs : List Frame) (hr : r.EarlyOut)
    (hf : r.readyState ws = .live → ∀ f ∈ fs, f.rowStatus.isOpen) :
    (fs.foldl (fun r f => r.send ws f) r).EarlyOut := by
  induction fs generalizing r with
  | nil => exact hr
  | cons f fs ih =>
      apply ih (earlyOut_send hr fun hlive => hf hlive f List.mem_cons_self)
      intro hlive g hg
      exact hf ((quiets_send r ws f).live ws hlive) g (List.mem_cons_of_mem f hg)

theorem delivered_send (r : Relay) (ws : ℕ) (f : Frame) : r.delivered ⊆ (r.send ws f).delivered := by
  unfold send
  split_ifs
  · exact List.subset_append_left _ _
  · exact List.Subset.refl _

theorem delivered_onMessage (r : Relay) (f : Frame) (k : Handler) :
    r.delivered ⊆ (r.onMessage f k).delivered := by
  cases k with
  | toAgent a => exact delivered_send r a f
  | toBrowser t =>
      show r.delivered ⊆ delivered ((r.browserOf t).elim _ _)
      cases r.browserOf t with
      | none => exact List.Subset.refl _
      | some b => exact delivered_send r b f

theorem delivered_onMessages (f : Frame) (ks : List Handler) (r : Relay) :
    r.delivered ⊆ (ks.foldl (fun r k => r.onMessage f k) r).delivered := by
  induction ks generalizing r with
  | nil => exact List.Subset.refl _
  | cons k ks ih => exact List.Subset.trans (delivered_onMessage r f k) (ih _)

theorem mem_delivered_send (hlive : r.readyState ws = .live) : ⟨ws, f⟩ ∈ (r.send ws f).delivered := by
  unfold send
  rw [if_pos hlive]
  simp

/-- A listener hands a frame to its target when that is open. -/
theorem mem_delivered_onMessages {w : ℕ} (ks : List Handler) (hk : k ∈ ks) (hw : w ∈ r.target k)
    (hlive : r.readyState w = .live) : ⟨w, f⟩ ∈ (ks.foldl (fun r k => r.onMessage f k) r).delivered := by
  induction ks generalizing r with
  | nil => exact absurd hk List.not_mem_nil
  | cons k' ks ih =>
      obtain rfl | hk := List.mem_cons.mp hk
      · refine delivered_onMessages f ks _ ?_
        cases k with
        | toAgent a =>
            cases hw
            exact mem_delivered_send hlive
        | toBrowser t =>
            show ⟨w, f⟩ ∈ delivered ((r.browserOf t).elim _ _)
            rw [show r.browserOf t = some w from hw]
            exact mem_delivered_send hlive
      · apply ih hk
        · rw [(quiets_onMessage r f k').target]
          exact hw
        · rw [readyState_onMessage]
          exact hlive

/-- A frame that came in before the end may go anywhere; a later one finds no open target. -/
theorem earlyOut_onMessage (hr : r.EarlyOut)
    (hf : (∃ w ∈ r.target k, r.readyState w = .live) → f.rowStatus.isOpen) : (r.onMessage f k).EarlyOut := by
  cases k with
  | toAgent a => exact earlyOut_send hr fun hlive => hf ⟨a, rfl, hlive⟩
  | toBrowser t =>
      show EarlyOut ((r.browserOf t).elim _ _)
      cases hb : r.browserOf t with
      | none => exact hr
      | some b => exact earlyOut_send hr fun hlive => hf ⟨b, hb, hlive⟩

theorem earlyOut_onMessages (ks : List Handler) (hr : r.EarlyOut)
    (hf : (∃ k ∈ ks, ∃ w ∈ r.target k, r.readyState w = .live) → f.rowStatus.isOpen) :
    (ks.foldl (fun r k => r.onMessage f k) r).EarlyOut := by
  induction ks generalizing r with
  | nil => exact hr
  | cons k ks ih =>
      apply ih (earlyOut_onMessage hr fun h => hf ⟨k, List.mem_cons_self, h⟩)
      rintro ⟨k', hk', w, hw, hlive⟩
      have hq := quiets_onMessage r f k
      rw [hq.target] at hw
      exact hf ⟨k', List.mem_cons_of_mem k hk', w, hw, hq.live w hlive⟩

theorem earlyBuffers_onMessage (hr : r.EarlyBuffers) (hf : f.rowStatus.isOpen) :
    (r.onMessage f k).EarlyBuffers := by
  intro u g hg
  cases k with
  | toAgent a => exact hr u g (bufferOf_send ▸ hg)
  | toBrowser t =>
      change g ∈ bufferOf ((r.browserOf t).elim _ _) u at hg
      cases hb : r.browserOf t with
      | none =>
          rw [hb] at hg
          obtain hg | rfl := mem_bufferOf_pushFrame hg
          · exact hr u g hg
          · exact hf
      | some b =>
          rw [hb] at hg
          exact hr u g (bufferOf_send ▸ hg)

theorem earlyBuffers_onMessages (ks : List Handler) (hr : r.EarlyBuffers) (hf : f.rowStatus.isOpen) :
    (ks.foldl (fun r k => r.onMessage f k) r).EarlyBuffers := by
  induction ks generalizing r with
  | nil => exact hr
  | cons k ks ih => exact ih (earlyBuffers_onMessage hr hf)

end Frames

/-! ### Registrations -/

section Joining
variable {r : Relay} {ws w t a b : ℕ} {k : Handler}

theorem target_listen : (r.listen ws k).target = r.target := by
  funext h
  cases h <;> rfl

theorem wired_listen (hr : r.Wired) (hto : ∀ t, k = .toBrowser t → t < r.objects.length)
    (hta : ∀ a, k = .toAgent a → a < r.sockets.length) : (r.listen ws k).Wired where
  toBrowser w t hk := by
    obtain hk | ⟨-, -, hk⟩ := mem_handlersOf_listen.mp hk
    · exact hr.toBrowser w t hk
    · exact hto t hk.symm
  toAgent w a hk := by
    rw [show (r.listen ws k).sockets.length = r.sockets.length from List.length_modify ..]
    obtain hk | ⟨-, -, hk⟩ := mem_handlersOf_listen.mp hk
    · exact hr.toAgent w a hk
    · exact hta a hk.symm
  browser t b hb := by
    rw [show (r.listen ws k).sockets.length = r.sockets.length from List.length_modify ..]
    exact hr.browser t b hb
  agent t a ha := mem_handlersOf_listen.mpr (.inl (hr.agent t a ha))
  entry := hr.entry

theorem cut_listen (hr : r.Cut) (hk : r.readyState ws ≠ .closed → ∀ w ∈ r.target k, r.readyState w ≠ .live) :
    (r.listen ws k).Cut := by
  intro v _ hv h hh w hw
  rw [target_listen] at hw
  rw [readyState_listen] at hv ⊢
  obtain hh | ⟨rfl, -, rfl⟩ := mem_handlersOf_listen.mp hh
  · exact hr.apply hv hh hw
  · exact hk hv w hw

theorem target_accept : r.accept.target = r.target := by
  funext h
  cases h <;> rfl

theorem wired_accept (hr : r.Wired) : r.accept.Wired where
  toBrowser w t hk := by
    rw [handlersOf_accept] at hk
    exact hr.toBrowser w t hk
  toAgent w a hk := by
    rw [handlersOf_accept] at hk
    exact (hr.toAgent w a hk).trans_le (by simp [accept])
  browser t b hb := (hr.browser t b hb).trans_le (by simp [accept])
  agent t a ha := by
    rw [handlersOf_accept]
    exact hr.agent t a ha
  entry := hr.entry

theorem cut_accept (hr : r.Wired) (hcut : r.Cut) : r.accept.Cut := by
  intro v _ hv h hh w hw
  rw [target_accept] at hw
  rw [handlersOf_accept] at hh
  rw [readyState_accept, if_neg (hr.target hh hw).ne]
  rw [readyState_accept, if_neg (lt_of_mem_handlersOf hh).ne] at hv
  exact hcut.apply hv hh hw

theorem target_ensureTunnel : r.ensureTunnel.target = r.target := by
  funext h
  cases h with
  | toBrowser t => exact browserOf_ensureTunnel
  | toAgent a => rfl

theorem ensureTunnel_of_some (h : r.entry = some t) : r.ensureTunnel = r := by
  unfold ensureTunnel
  rw [h]

theorem ensureTunnel_of_none (h : r.entry = none) : r.ensureTunnel =
    { r with objects := r.objects ++ [⟨none, none, []⟩], entry := some r.objects.length } := by
  unfold ensureTunnel
  rw [h]

theorem sockets_ensureTunnel : r.ensureTunnel.sockets = r.sockets := by
  unfold ensureTunnel
  split <;> rfl

theorem delivered_ensureTunnel : r.ensureTunnel.delivered = r.delivered := by
  unfold ensureTunnel
  split <;> rfl

theorem readyState_ensureTunnel : r.ensureTunnel.readyState = r.readyState := by
  unfold readyState
  rw [sockets_ensureTunnel]

theorem handlersOf_ensureTunnel : r.ensureTunnel.handlersOf = r.handlersOf := by
  unfold handlersOf
  rw [sockets_ensureTunnel]

theorem objects_ensureTunnel : r.objects.length ≤ r.ensureTunnel.objects.length := by
  unfold ensureTunnel
  split
  · exact le_rfl
  · simp

theorem entry_ensureTunnel (h : t ∈ r.ensureTunnel.entry) :
    t ∈ r.entry ∨ (t = r.objects.length ∧ t < r.ensureTunnel.objects.length) := by
  cases he : r.entry with
  | some u =>
      rw [ensureTunnel_of_some he, he] at h
      exact .inl h
  | none =>
      rw [ensureTunnel_of_none he] at h ⊢
      cases h
      exact .inr ⟨rfl, by simp⟩

theorem wired_ensureTunnel (hr : r.Wired) : r.ensureTunnel.Wired where
  toBrowser w t hk := by
    rw [handlersOf_ensureTunnel] at hk
    exact (hr.toBrowser w t hk).trans_le objects_ensureTunnel
  toAgent w a hk := by
    rw [handlersOf_ensureTunnel] at hk
    rw [sockets_ensureTunnel]
    exact hr.toAgent w a hk
  browser t b hb := by
    rw [browserOf_ensureTunnel] at hb
    rw [sockets_ensureTunnel]
    exact hr.browser t b hb
  agent t a ha := by
    rw [agentOf_ensureTunnel] at ha
    rw [handlersOf_ensureTunnel]
    exact hr.agent t a ha
  entry t ht := by
    obtain ht | ⟨-, ht⟩ := entry_ensureTunnel ht
    · exact (hr.entry t ht).trans_le objects_ensureTunnel
    · exact ht

theorem cut_ensureTunnel (hr : r.Cut) : r.ensureTunnel.Cut := by
  intro v hv hl h hh w hw
  rw [target_ensureTunnel] at hw
  rw [handlersOf_ensureTunnel] at hh
  rw [readyState_ensureTunnel] at hl ⊢
  exact hr.apply hl hh hw

/-- The object of a new entry has no ends. -/
theorem agentGone_ensureTunnel (hr : r.Wired) (hgone : ∀ t ∈ r.entry, r.AgentGone t) :
    ∀ t ∈ r.ensureTunnel.entry, r.ensureTunnel.AgentGone t := by
  intro t ht
  unfold AgentGone
  rw [handlersOf_ensureTunnel, readyState_ensureTunnel, sockets_ensureTunnel, bufferOf_ensureTunnel]
  obtain ht | ⟨rfl, -⟩ := entry_ensureTunnel ht
  · exact hgone t ht
  · constructor
    · intro ws _ hk
      exact absurd (hr.toBrowser ws _ hk) (lt_irrefl _)
    · intro f hf
      simp [bufferOf] at hf

theorem browserGone_ensureTunnel (hgone : ∀ t ∈ r.entry, r.BrowserGone t) :
    ∀ t ∈ r.ensureTunnel.entry, r.ensureTunnel.BrowserGone t := by
  intro t ht b hb
  rw [browserOf_ensureTunnel] at hb
  rw [readyState_ensureTunnel]
  obtain ht | ⟨rfl, -⟩ := entry_ensureTunnel ht
  · exact hgone t ht b hb
  · simp [browserOf] at hb

theorem wired_setBrowser (hr : r.Wired) (hb : b < r.sockets.length) : (r.setBrowser t b).Wired where
  toBrowser w u hk := by
    rw [show (r.setBrowser t b).objects.length = r.objects.length from List.length_modify ..]
    exact hr.toBrowser w u hk
  toAgent := hr.toAgent
  browser u w hw := by
    obtain hw | ⟨-, rfl⟩ := mem_browserOf_setBrowser hw
    · exact hr.browser u w hw
    · exact hb
  agent u a ha := by
    rw [agentOf_setBrowser] at ha
    exact hr.agent u a ha
  entry u hu := by
    rw [show (r.setBrowser t b).objects.length = r.objects.length from List.length_modify ..]
    exact hr.entry u hu

theorem cut_setBrowser (hr : r.Cut) (hgone : r.AgentGone t) : (r.setBrowser t b).Cut := by
  intro v _ hv h hh w hw
  cases h with
  | toAgent a => exact hr.apply hv hh hw
  | toBrowser u =>
      obtain hw | ⟨rfl, -⟩ := mem_browserOf_setBrowser hw
      · exact hr.apply hv hh hw
      · exact absurd (hgone.1 v (lt_of_mem_handlersOf hh) hh) hv

theorem wired_setAgent_listen (hr : r.Wired) (ht : t < r.objects.length) (ha : a < r.sockets.length) :
    ((r.setAgent t a).listen a (.toBrowser t)).Wired where
  toBrowser w u hk := by
    rw [show ((r.setAgent t a).listen a (.toBrowser t)).objects.length = r.objects.length from
      List.length_modify ..]
    obtain hk | ⟨-, -, hk⟩ := mem_handlersOf_listen.mp hk
    · exact hr.toBrowser w u hk
    · cases hk
      exact ht
  toAgent w c hk := by
    rw [show ((r.setAgent t a).listen a (.toBrowser t)).sockets.length = r.sockets.length from
      List.length_modify ..]
    obtain hk | ⟨-, -, hk⟩ := mem_handlersOf_listen.mp hk
    · exact hr.toAgent w c hk
    · cases hk
  browser u w hw := by
    rw [show ((r.setAgent t a).listen a (.toBrowser t)).sockets.length = r.sockets.length from
      List.length_modify ..]
    refine hr.browser u w ?_
    rw [← browserOf_setAgent (t := t) (b := a)]
    exact hw
  agent u c hc := by
    apply mem_handlersOf_listen.mpr
    obtain hc | ⟨rfl, rfl⟩ := mem_agentOf_setAgent (t := t) (b := a) hc
    · exact .inl (hr.agent u c hc)
    · exact .inr ⟨rfl, ha, rfl⟩
  entry u hu := by
    rw [show ((r.setAgent t a).listen a (.toBrowser t)).objects.length = r.objects.length from
      List.length_modify ..]
    exact hr.entry u hu

theorem wired_flush (hr : r.Wired) (ha : a < r.sockets.length) :
    (r.flushAndBridgeBrowser b a).Wired := by
  unfold flushAndBridgeBrowser
  cases r.entry with
  | none => exact hr
  | some t =>
      have hq := (quiets_sends b (r.bufferOf t) r).trans (quiets_clearBuffer _ t)
      apply wired_listen (hr.quiets hq)
      · intro u hu
        cases hu
      · intro c hc
        cases hc
        rw [hq.sockets]
        exact ha

theorem cut_flush (hr : r.Cut) (hb : r.readyState b = .closed ∨ r.readyState a = .closed) :
    (r.flushAndBridgeBrowser b a).Cut := by
  unfold flushAndBridgeBrowser
  cases r.entry with
  | none => exact hr
  | some t =>
      have hq := (quiets_sends b (r.bufferOf t) r).trans (quiets_clearBuffer _ t)
      apply cut_listen (hr.quiets hq)
      intro hopen w hw hlive
      cases hw
      obtain hb | ha := hb
      · exact hopen (hq.closed b hb)
      · rw [hq.closed a ha] at hlive
        cases hlive

theorem earlyOut_flush (hr : r.EarlyOut)
    (hf : ∀ t ∈ r.entry, r.readyState b = .live → ∀ f ∈ r.bufferOf t, f.rowStatus.isOpen) :
    (r.flushAndBridgeBrowser b a).EarlyOut := by
  unfold flushAndBridgeBrowser
  cases he : r.entry with
  | none => exact hr
  | some t => exact earlyOut_sends _ hr (hf t he)

theorem earlyBuffers_flush (hr : r.EarlyBuffers) : (r.flushAndBridgeBrowser b a).EarlyBuffers := by
  unfold flushAndBridgeBrowser
  cases r.entry with
  | none => exact hr
  | some t =>
      intro u f hf
      have hf := mem_bufferOf_clearBuffer hf
      rw [bufferOf_sends] at hf
      exact hr u f hf

theorem agentGone_accept (h : r.AgentGone t) : r.accept.AgentGone t := by
  refine ⟨fun ws _ hk => ?_, h.2⟩
  rw [handlersOf_accept] at hk
  have hws := lt_of_mem_handlersOf hk
  rw [readyState_accept, if_neg hws.ne]
  exact h.1 ws hws hk

theorem browserGone_accept (hr : r.Wired) (h : r.BrowserGone t) : r.accept.BrowserGone t := by
  intro b hb
  rw [readyState_accept, if_neg (hr.browser t b hb).ne]
  exact h b hb

theorem joinBrowser_cases (r : Relay) (t b : ℕ) : r.joinBrowser t b = r.setBrowser t b ∨
    ∃ a ∈ r.agentOf t, r.joinBrowser t b = (r.setBrowser t b).flushAndBridgeBrowser b a := by
  have h : r.joinBrowser t b = ((r.setBrowser t b).agentOf t).elim (r.setBrowser t b) fun a =>
      (r.setBrowser t b).flushAndBridgeBrowser b a := rfl
  rw [h, agentOf_setBrowser]
  cases r.agentOf t with
  | none => exact .inl rfl
  | some a => exact .inr ⟨a, rfl, rfl⟩

theorem wired_joinBrowser (hr : r.Wired) (hb : b < r.sockets.length) : (r.joinBrowser t b).Wired := by
  have hset : (r.setBrowser t b).Wired := wired_setBrowser hr hb
  obtain h | ⟨a, ha, h⟩ := joinBrowser_cases r t b
  · rw [h]
    exact hset
  · rw [h]
    exact wired_flush hset (hr.agent_lt ha)

theorem cut_joinBrowser (hr : r.Wired) (hcut : r.Cut) (hgone : r.AgentGone t) :
    (r.joinBrowser t b).Cut := by
  have hset : (r.setBrowser t b).Cut := cut_setBrowser hcut hgone
  obtain h | ⟨a, ha, h⟩ := joinBrowser_cases r t b
  · rw [h]
    exact hset
  · rw [h]
    exact cut_flush hset (.inr (hgone.1 a (hr.agent_lt ha) (hr.agent t a ha)))

theorem earlyOut_joinBrowser (hr : r.EarlyOut)
    (hf : ∀ u ∈ r.entry, ∀ f ∈ r.bufferOf u, f.rowStatus.isOpen) : (r.joinBrowser t b).EarlyOut := by
  obtain h | ⟨a, ha, h⟩ := joinBrowser_cases r t b
  · rw [h]
    exact hr
  · rw [h]
    refine earlyOut_flush (r := r.setBrowser t b) hr fun u hu _ f hfu => hf u hu f ?_
    rwa [bufferOf_setBrowser] at hfu

theorem earlyBuffers_joinBrowser (hr : r.EarlyBuffers) : (r.joinBrowser t b).EarlyBuffers := by
  have hset : (r.setBrowser t b).EarlyBuffers := by
    intro u f hf
    rw [bufferOf_setBrowser] at hf
    exact hr u f hf
  obtain h | ⟨a, ha, h⟩ := joinBrowser_cases r t b
  · rw [h]
    exact hset
  · rw [h]
    exact earlyBuffers_flush hset

/-- The agent's tunnel and its listener, before a browser that came first is served. -/
def attachAgent (r : Relay) (t a : ℕ) : Relay := (r.setAgent t a).listen a (.toBrowser t)

theorem browserOf_attachAgent : (r.attachAgent t a).browserOf = r.browserOf := by
  funext u
  exact browserOf_setAgent

theorem bufferOf_attachAgent : (r.attachAgent t a).bufferOf = r.bufferOf := by
  funext u
  exact bufferOf_setAgent

theorem readyState_attachAgent : (r.attachAgent t a).readyState = r.readyState := by
  funext w
  exact readyState_listen

theorem joinAgent_cases (r : Relay) (t a : ℕ) : r.joinAgent t a = r.attachAgent t a ∨
    ∃ b ∈ r.browserOf t, r.joinAgent t a = (r.attachAgent t a).flushAndBridgeBrowser b a := by
  have h : r.joinAgent t a = ((r.attachAgent t a).browserOf t).elim (r.attachAgent t a) fun b =>
      (r.attachAgent t a).flushAndBridgeBrowser b a := rfl
  rw [h, browserOf_attachAgent]
  cases r.browserOf t with
  | none => exact .inl rfl
  | some b => exact .inr ⟨b, rfl, rfl⟩

theorem wired_joinAgent (hr : r.Wired) (ht : t < r.objects.length) (ha : a < r.sockets.length) :
    (r.joinAgent t a).Wired := by
  have hset : (r.attachAgent t a).Wired := wired_setAgent_listen hr ht ha
  obtain h | ⟨b, hb, h⟩ := joinAgent_cases r t a
  · rw [h]
    exact hset
  · rw [h]
    exact wired_flush hset (ha.trans_le (List.length_modify ..).ge)

theorem cut_attachAgent (hcut : r.Cut) (hgone : r.BrowserGone t) : (r.attachAgent t a).Cut := by
  have hagent : (r.setAgent t a).Cut := by
    intro v _ hv h hh w hw
    cases h with
    | toAgent c => exact hcut.apply hv hh hw
    | toBrowser u =>
        refine hcut.apply hv hh ?_
        rw [target, ← browserOf_setAgent (t := t) (b := a)]
        exact hw
  refine cut_listen hagent fun _ w hw hlive => ?_
  rw [target, browserOf_setAgent] at hw
  rw [show (r.setAgent t a).readyState w = r.readyState w from rfl, hgone w hw] at hlive
  cases hlive

theorem cut_joinAgent (hcut : r.Cut) (hgone : r.BrowserGone t) : (r.joinAgent t a).Cut := by
  have hset : (r.attachAgent t a).Cut := cut_attachAgent hcut hgone
  obtain h | ⟨b, hb, h⟩ := joinAgent_cases r t a
  · rw [h]
    exact hset
  · rw [h]
    refine cut_flush hset (.inl ?_)
    rw [readyState_attachAgent]
    exact hgone b hb

theorem earlyOut_joinAgent (hr : r.EarlyOut) (hf : ∀ b ∈ r.browserOf t, r.readyState b = .live →
    ∀ u ∈ r.entry, ∀ f ∈ r.bufferOf u, f.rowStatus.isOpen) : (r.joinAgent t a).EarlyOut := by
  obtain h | ⟨b, hb, h⟩ := joinAgent_cases r t a
  · rw [h]
    exact hr
  · rw [h]
    refine earlyOut_flush (r := r.attachAgent t a) hr fun u hu hlive f hfu => ?_
    rw [readyState_attachAgent] at hlive
    rw [bufferOf_attachAgent] at hfu
    exact hf b hb hlive u hu f hfu

theorem earlyBuffers_joinAgent (hr : r.EarlyBuffers) : (r.joinAgent t a).EarlyBuffers := by
  have hset : (r.attachAgent t a).EarlyBuffers := by
    intro u f hf
    rw [bufferOf_attachAgent] at hf
    exact hr u f hf
  obtain h | ⟨b, hb, h⟩ := joinAgent_cases r t a
  · rw [h]
    exact hset
  · rw [h]
    exact earlyBuffers_flush hset

theorem entry_ensureTunnel_isSome (r : Relay) : ∃ t, r.ensureTunnel.entry = some t := by
  cases h : r.entry with
  | some t => exact ⟨t, by rw [ensureTunnel_of_some h, h]⟩
  | none => exact ⟨_, by rw [ensureTunnel_of_none h]⟩

theorem earlyBuffers_ensureTunnel (hr : r.EarlyBuffers) : r.ensureTunnel.EarlyBuffers := by
  intro u f hf
  rw [bufferOf_ensureTunnel] at hf
  exact hr u f hf

theorem earlyEntry_ensureTunnel (hf : ∀ t ∈ r.entry, ∀ f ∈ r.bufferOf t, f.rowStatus.isOpen) :
    ∀ t ∈ r.ensureTunnel.entry, ∀ f ∈ r.ensureTunnel.bufferOf t, f.rowStatus.isOpen := by
  intro t ht f hft
  rw [bufferOf_ensureTunnel] at hft
  obtain ht | ⟨rfl, -⟩ := entry_ensureTunnel ht
  · exact hf t ht f hft
  · simp [bufferOf] at hft

theorem earlyOut_ensureTunnel (hr : r.EarlyOut) : r.ensureTunnel.EarlyOut := by
  unfold EarlyOut
  rw [delivered_ensureTunnel]
  exact hr

theorem registerBrowserTunnel_eq (h : r.ensureTunnel.entry = some t) :
    r.registerBrowserTunnel = r.ensureTunnel.accept.joinBrowser t r.ensureTunnel.sockets.length := by
  show r.ensureTunnel.entry.elim _ _ = _
  rw [h]
  rfl

theorem registerAgentTunnel_eq (h : r.ensureTunnel.entry = some t) :
    r.registerAgentTunnel = r.ensureTunnel.accept.joinAgent t r.ensureTunnel.sockets.length := by
  show r.ensureTunnel.entry.elim _ _ = _
  rw [h]
  rfl

theorem lt_accept (r : Relay) : r.sockets.length < r.accept.sockets.length := by
  simp [accept]

theorem wired_registerBrowserTunnel (hr : r.Wired) : r.registerBrowserTunnel.Wired := by
  obtain ⟨t, ht⟩ := entry_ensureTunnel_isSome r
  rw [registerBrowserTunnel_eq ht]
  exact wired_joinBrowser (wired_accept (wired_ensureTunnel hr)) (lt_accept _)

theorem wired_registerAgentTunnel (hr : r.Wired) : r.registerAgentTunnel.Wired := by
  obtain ⟨t, ht⟩ := entry_ensureTunnel_isSome r
  rw [registerAgentTunnel_eq ht]
  have hens := wired_ensureTunnel hr
  exact wired_joinAgent (wired_accept hens) (hens.entry t ht) (lt_accept _)

/-- A browser that joins after the end, when no agent is left, is not wired to anybody. -/
theorem cut_registerBrowserTunnel (hr : r.Wired) (hcut : r.Cut)
    (hgone : ∀ t ∈ r.entry, r.AgentGone t) : r.registerBrowserTunnel.Cut := by
  obtain ⟨t, ht⟩ := entry_ensureTunnel_isSome r
  rw [registerBrowserTunnel_eq ht]
  have hens := wired_ensureTunnel hr
  exact cut_joinBrowser (wired_accept hens) (cut_accept hens (cut_ensureTunnel hcut))
    (agentGone_accept (agentGone_ensureTunnel hr hgone t ht))

theorem cut_registerAgentTunnel (hr : r.Wired) (hcut : r.Cut)
    (hgone : ∀ t ∈ r.entry, r.BrowserGone t) : r.registerAgentTunnel.Cut := by
  obtain ⟨t, ht⟩ := entry_ensureTunnel_isSome r
  rw [registerAgentTunnel_eq ht]
  have hens := wired_ensureTunnel hr
  exact cut_joinAgent (cut_accept hens (cut_ensureTunnel hcut))
    (browserGone_accept hens (browserGone_ensureTunnel hgone t ht))

theorem earlyOut_registerBrowserTunnel (hr : r.EarlyOut)
    (hf : ∀ t ∈ r.entry, ∀ f ∈ r.bufferOf t, f.rowStatus.isOpen) : r.registerBrowserTunnel.EarlyOut := by
  obtain ⟨t, ht⟩ := entry_ensureTunnel_isSome r
  rw [registerBrowserTunnel_eq ht]
  exact earlyOut_joinBrowser (r := r.ensureTunnel.accept) (earlyOut_ensureTunnel hr)
    (earlyEntry_ensureTunnel hf)

theorem earlyBuffers_registerBrowserTunnel (hr : r.EarlyBuffers) :
    r.registerBrowserTunnel.EarlyBuffers := by
  obtain ⟨t, ht⟩ := entry_ensureTunnel_isSome r
  rw [registerBrowserTunnel_eq ht]
  exact earlyBuffers_joinBrowser (r := r.ensureTunnel.accept) (earlyBuffers_ensureTunnel hr)

theorem earlyOut_registerAgentTunnel (hr : r.Wired) (hout : r.EarlyOut)
    (hf : (∀ t ∈ r.entry, r.BrowserGone t) ∨ ∀ t ∈ r.entry, ∀ f ∈ r.bufferOf t, f.rowStatus.isOpen) :
    r.registerAgentTunnel.EarlyOut := by
  obtain ⟨t, ht⟩ := entry_ensureTunnel_isSome r
  rw [registerAgentTunnel_eq ht]
  refine earlyOut_joinAgent (r := r.ensureTunnel.accept) (earlyOut_ensureTunnel hout) fun b hb hlive => ?_
  obtain hgone | hearly := hf
  · have hclosed := browserGone_accept (wired_ensureTunnel hr) (browserGone_ensureTunnel hgone t ht) b hb
    rw [hclosed] at hlive
    cases hlive
  · exact earlyEntry_ensureTunnel hearly

theorem earlyBuffers_registerAgentTunnel (hr : r.EarlyBuffers) : r.registerAgentTunnel.EarlyBuffers := by
  obtain ⟨t, ht⟩ := entry_ensureTunnel_isSome r
  rw [registerAgentTunnel_eq ht]
  exact earlyBuffers_joinAgent (r := r.ensureTunnel.accept) (earlyBuffers_ensureTunnel hr)

end Joining

end Relay

end Obliance.Remote
