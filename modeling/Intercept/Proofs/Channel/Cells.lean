import Intercept.Proofs.Channel.Run

/-!
The two cells of a handle that tell the life of its channel: the state, and whether it was closed.
Each write to one of them moves life forward, in whatever order the holders of handles and the loop
make their writes. Where no close is halfway done a handle is alive exactly while the state is open,
and one that is not alive stays as it is, whatever code runs with it.
-/

namespace Intercept

namespace Handle

/-- A write to one of the two cells. A close cancels, and then yields if nobody has done so; the
loop makes the other two when it has its result and when it has ended. -/
inductive Write where
  | cancel
  | yield
  | closing
  | closed
deriving DecidableEq, Repr

def write (h : Handle) : Write → Handle
  | .cancel => { h with cancelled := true }
  | .yield => { h with state := if h.state = .opened then .closing else h.state }
  | .closing => { h with state := .closing }
  | .closed => { h with state := .closed }

theorem close_writes (h : Handle) : h.close = (h.write .cancel).write .yield := rfl

structure Later (h g : Handle) : Prop where
  state : h.state.rank ≤ g.state.rank
  cancelled : h.cancelled = true → g.cancelled = true

theorem Later.refl (h : Handle) : Later h h := ⟨Nat.le_refl _, id⟩

theorem Later.trans {h g k : Handle} (hg : Later h g) (hk : Later g k) : Later h k :=
  ⟨Nat.le_trans hg.state hk.state, fun hc => hk.cancelled (hg.cancelled hc)⟩

theorem later_cancel (h : Handle) : Later h (h.write .cancel) := ⟨Nat.le_refl _, fun _ => rfl⟩

theorem later_yield (h : Handle) : Later h (h.write .yield) := by
  refine ⟨?_, id⟩
  cases hs : h.state <;> simp [write, hs, ChannelState.rank]

/-- Only a loop that has ended could take life back, by saying once more that it is about to end. -/
theorem later_closing {h : Handle} (hs : h.state ≠ .closed) : Later h (h.write .closing) := by
  refine ⟨?_, id⟩
  cases hs' : h.state with
  | closed => exact absurd hs' hs
  | _ => simp [write, ChannelState.rank]

theorem later_closed (h : Handle) : Later h (h.write .closed) := by
  refine ⟨?_, id⟩
  cases hs : h.state <;> simp [write, ChannelState.rank]

theorem later_close (h : Handle) : Later h h.close := by
  rw [close_writes]
  exact (later_cancel h).trans (later_yield _)

theorem later_live {caps : Capabilities} {b b' : Bool} {q a q' a' : List Queued}
    (hb : b = true → b' = true) : Later (live caps b q a) (live caps b' q' a') := by
  refine ⟨?_, hb⟩
  cases b <;> cases b' <;> simp_all [live, ChannelState.rank]

/-- What is over stays over. -/
theorem Later.dead {h g : Handle} (hg : Later h g) (hd : h.isAlive = false) :
    g.isAlive = false := by
  obtain ⟨hrank, hcancelled⟩ := hg
  unfold isAlive at *
  cases hh : h.state <;> cases hg : g.state <;> simp_all [ChannelState.rank]

/-- The cells as they are when no close is halfway done. -/
structure Whole (h : Handle) : Prop where
  begun : h.state ≠ .connecting
  cancelled : h.cancelled = true ↔ h.state ≠ .opened

theorem Whole.alive_iff {h : Handle} (hw : h.Whole) : h.isAlive = true ↔ h.state = .opened := by
  have hc := hw.cancelled
  have hb := hw.begun
  unfold isAlive
  cases hs : h.state <;> simp_all

theorem Whole.close {h : Handle} (hw : h.Whole) : h.close.Whole := by
  refine ⟨?_, ?_⟩
  · have hb := hw.begun
    unfold Handle.close
    cases hs : h.state <;> simp_all
  · unfold Handle.close
    cases hs : h.state <;> simp

theorem whole_live (caps : Capabilities) (b : Bool) (q a : List Queued) :
    (live caps b q a).Whole := by
  refine ⟨?_, ?_⟩ <;> cases b <;> simp [live]

/-- A handle that is not alive is closed already. -/
theorem Whole.close_dead {h : Handle} (hw : h.Whole) (hd : h.isAlive = false) : h.close = h := by
  have hne : h.state ≠ .opened := by
    intro hs
    rw [hw.alive_iff.mpr hs] at hd
    cases hd
  have hc : h.cancelled = true := hw.cancelled.mpr hne
  unfold Handle.close
  rw [if_neg hne, ← hc]

/-! Writes in any order -/

/-- The handle before, between and after these writes. -/
def trail : Handle → List Write → List Handle
  | h, [] => [h]
  | h, w :: ws => h :: (h.write w).trail ws

theorem trail_head (h : Handle) (ws : List Write) : ∃ l, h.trail ws = h :: l := by
  cases ws with
  | nil => exact ⟨[], rfl⟩
  | cons w ws => exact ⟨_, rfl⟩

/-- If the loop does not say that it is about to end after it has said that it has, no write takes
life back, whoever else makes which writes in between. -/
theorem trail_forward {h : Handle} {ws : List Write}
    (hws : ¬ [Write.closed, .closing].Sublist ws) (hs : h.state = .closed → Write.closing ∉ ws) :
    (h.trail ws).Pairwise Later := by
  induction ws generalizing h with
  | nil => exact List.pairwise_singleton _ h
  | cons w ws ih =>
    have htail : ¬ [Write.closed, .closing].Sublist ws := fun hsub => hws (hsub.cons w)
    have hnext : (h.write w).state = .closed → Write.closing ∉ ws := by
      intro hclosed hin
      cases w with
      | cancel => exact hs hclosed (List.mem_cons_of_mem _ hin)
      | yield =>
        have hwas : h.state = .closed := by
          unfold write at hclosed
          cases hs' : h.state <;> simp_all
        exact hs hwas (List.mem_cons_of_mem _ hin)
      | closing => cases hclosed
      | closed => exact hws (List.Sublist.cons_cons _ (List.singleton_sublist.mpr hin))
    have hlater : Later h (h.write w) := by
      cases w with
      | cancel => exact later_cancel h
      | yield => exact later_yield h
      | closing => exact later_closing fun hclosed => hs hclosed (List.mem_cons_self)
      | closed => exact later_closed h
    have hrest := ih htail hnext
    refine List.pairwise_cons.mpr ⟨?_, hrest⟩
    obtain ⟨l, hl⟩ := trail_head (h.write w) ws
    rw [hl] at hrest ⊢
    intro g hg
    rcases List.mem_cons.mp hg with rfl | hg
    · exact hlater
    · exact hlater.trans ((List.pairwise_cons.mp hrest).1 g hg)

/-- What the writes so far have made of a channel that was open. -/
theorem foldl_write (caps : Capabilities) {ws : List Write}
    (hws : ¬ [Write.closed, .closing].Sublist ws) :
    let h := ws.foldl write (detached caps)
    h.state ≠ .connecting ∧ (h.state = .opened ↔ ∀ w ∈ ws, w = .cancel) ∧
      (h.state = .closed ↔ .closed ∈ ws) ∧ (h.cancelled = true ↔ .cancel ∈ ws) := by
  induction ws using List.reverseRecOn with
  | nil => simp [detached, fresh]
  | append_singleton ws w ih =>
    have hbefore := ih fun hsub => hws (hsub.trans (List.sublist_append_left ws [w]))
    rw [List.foldl_append, List.forall_mem_append, List.forall_mem_singleton, List.mem_append,
      List.mem_append, List.mem_singleton, List.mem_singleton]
    clear ih
    generalize ws.foldl write (detached caps) = h at hbefore ⊢
    obtain ⟨hbegun, hopen, hclosed, hcancelled⟩ := hbefore
    cases w with
    | cancel => simp_all [write]
    | yield => cases hs : h.state <;> simp_all [write]
    | closing =>
      have hnot : Write.closed ∉ ws := by
        intro hin
        exact hws ((List.singleton_sublist.mpr hin).append (List.Sublist.refl [Write.closing]))
      simp_all [write]
    | closed => simp_all [write]

end Handle

namespace Script

variable {α : Type}

/-- The handle as some code finds it, from call to call. -/
def handles : Script α → Handle → List Handle
  | .done _, h => [h]
  | .send s next, h =>
    h :: match h.send s with
      | .ok g => (next (.ok ())).handles g
      | .error f => (next (.error f)).handles h
  | .close next, h => h :: next.handles h.close
  | .look next, h => h :: (next h.view).handles h

/-- What every accepted send and every close keeps holds all through. -/
theorem handles_keep {P : Handle → Prop} (hsend : ∀ h s g, P h → h.send s = .ok g → P g)
    (hclose : ∀ h, P h → P h.close) (x : Script α) {h : Handle} (hp : P h) :
    ∀ g ∈ x.handles h, P g := by
  induction x generalizing h with
  | done a =>
    intro g hg
    rwa [List.mem_singleton.mp hg]
  | send s next ih =>
    intro g hg
    simp only [handles] at hg
    rcases List.mem_cons.mp hg with rfl | hg
    · exact hp
    · cases hs : h.send s with
      | ok k =>
        rw [hs] at hg
        exact ih _ (hsend h s k hp hs) g hg
      | error f =>
        rw [hs] at hg
        exact ih _ hp g hg
  | close next ih =>
    intro g hg
    rcases List.mem_cons.mp hg with rfl | hg
    · exact hp
    · exact ih (hclose h hp) g hg
  | look next ih =>
    intro g hg
    rcases List.mem_cons.mp hg with rfl | hg
    · exact hp
    · exact ih _ hp g hg

theorem later_send {h g : Handle} {s : Sending} (hs : h.send s = .ok g) : Handle.Later h g := by
  rw [Handle.send_eq_ok hs]
  exact ⟨Nat.le_refl _, id⟩

theorem later_handles (x : Script α) (h : Handle) : ∀ g ∈ x.handles h, Handle.Later h g :=
  handles_keep (fun _ _ _ hk hs => hk.trans (later_send hs))
    (fun k hk => hk.trans (Handle.later_close k)) x (Handle.Later.refl h)

theorem handles_forward (x : Script α) (h : Handle) : (x.handles h).Pairwise Handle.Later := by
  induction x generalizing h with
  | done a => exact List.pairwise_singleton _ h
  | send s next ih =>
    simp only [handles]
    cases hs : h.send s with
    | ok g =>
      refine List.pairwise_cons.mpr ⟨?_, ih _ g⟩
      intro k hk
      exact (later_send hs).trans (later_handles _ g k hk)
    | error f => exact List.pairwise_cons.mpr ⟨later_handles _ h, ih _ h⟩
  | close next ih =>
    refine List.pairwise_cons.mpr ⟨?_, ih h.close⟩
    intro k hk
    exact (Handle.later_close h).trans (later_handles _ _ k hk)
  | look next ih => exact List.pairwise_cons.mpr ⟨later_handles _ h, ih _ h⟩

/-- The last of them is the one that is left. -/
theorem handles_last (x : Script α) (h : Handle) :
    ∃ l, x.handles h = l ++ [(x.run h).2] := by
  induction x generalizing h with
  | done a => exact ⟨[], rfl⟩
  | send s next ih =>
    simp only [handles, run]
    cases h.send s with
    | ok g =>
      obtain ⟨l, hl⟩ := ih (.ok ()) g
      exact ⟨h :: l, by simp only [hl, List.cons_append]⟩
    | error f =>
      obtain ⟨l, hl⟩ := ih (.error f) h
      exact ⟨h :: l, by simp only [hl, List.cons_append]⟩
  | close next ih =>
    obtain ⟨l, hl⟩ := ih h.close
    exact ⟨h :: l, by simp only [handles, run, hl, List.cons_append]⟩
  | look next ih =>
    obtain ⟨l, hl⟩ := ih h.view h
    exact ⟨h :: l, by simp only [handles, run, hl, List.cons_append]⟩

theorem later_run (x : Script α) (h : Handle) : ∀ g ∈ x.handles h, Handle.Later g (x.run h).2 := by
  obtain ⟨l, hl⟩ := handles_last x h
  have hforward := handles_forward x h
  rw [hl] at hforward ⊢
  obtain ⟨-, -, hcross⟩ := List.pairwise_append.mp hforward
  intro g hg
  rcases List.mem_append.mp hg with hg | hg
  · exact hcross g hg _ (List.mem_singleton_self _)
  · rw [List.mem_singleton.mp hg]
    exact Handle.Later.refl _

/-- Code that runs with a handle that is not alive leaves it as it is. -/
theorem run_dead (x : Script α) {h : Handle} (hw : h.Whole) (hd : h.isAlive = false) :
    (x.run h).2 = h := by
  induction x with
  | done a => rfl
  | send s next ih =>
    obtain ⟨f, hf⟩ := Channel.send_dead hd s
    simp only [run, hf]
    exact ih _
  | close next ih =>
    simp only [run]
    rw [hw.close_dead hd]
    exact ih
  | look next ih => exact ih _

end Script

end Intercept
