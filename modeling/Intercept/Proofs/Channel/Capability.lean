import Intercept.Proofs.Channel.Run

/-!
What a channel never says. A command gets into the queue by a send, which asks for the capability,
or as the verdict of the loop itself, which is put there only if the channel may filter. Nothing
leaves the queue but what was put into it, so a command that is queued or written, at any time and
whoever it comes from, is one that the channel was opened for and that makes sense.
-/

namespace Intercept

/-- A command for which a channel with these capabilities was opened: an injection goes in some
direction, and a verdict is yes or no. -/
def Command.Within (caps : Capabilities) (c : Command) : Prop :=
  match c.kind with
  | .filter => caps.filter = true ∧ (c.extra = 0 ∨ c.extra = 1)
  | .inject => caps.inject = true ∧ (c.extra = 1 ∨ c.extra = 2 ∨ c.extra = 3)
  | .close => caps.close = true

namespace Command

variable {caps : Capabilities}

theorem within_filter (hc : caps.filter = true) (packet : Int64) (allow : Bool) :
    (filter packet allow).Within caps := by
  refine ⟨hc, ?_⟩
  cases allow
  · exact .inl rfl
  · exact .inr rfl

theorem within_inject (hc : caps.inject = true) (target : Int64) (data : List UInt8)
    (direction : Direction) : (inject target data direction).Within caps := by
  refine ⟨hc, ?_⟩
  cases direction
  · exact .inl rfl
  · exact .inr (.inl rfl)
  · exact .inr (.inr rfl)

theorem within_sending {s : Sending} (hs : caps.has s.capability = true) :
    s.command.Within caps := by
  cases s with
  | filter packet allow => exact within_filter hs packet allow
  | inject target data direction => exact within_inject hs target data direction
  | closeProxy target => exact hs

end Command

structure Handle.Within (caps : Capabilities) (h : Handle) : Prop where
  same : h.caps = caps
  accepted : ∀ q ∈ h.accepted, q.command.Within caps
  queue : ∀ q ∈ h.queue, q.command.Within caps

namespace Handle

variable {caps : Capabilities} {h g : Handle}

theorem within_append (hh : h.Within caps) {q : Queued} (hq : q.command.Within caps) :
    Within caps { h with queue := h.queue ++ [q], accepted := h.accepted ++ [q] } := by
  have grown {qs : List Queued} (hqs : ∀ x ∈ qs, x.command.Within caps) :
      ∀ x ∈ qs ++ [q], x.command.Within caps := by
    intro x hx
    rcases List.mem_append.mp hx with hx | hx
    · exact hqs x hx
    · rw [List.mem_singleton.mp hx]
      exact hq
  exact ⟨hh.same, grown hh.accepted, grown hh.queue⟩

theorem within_put (hh : h.Within caps) {q : Queued} (hq : q.command.Within caps)
    (e : h.put q = .ok g) : g.Within caps := by
  unfold put at e
  split at e
  · rw [← Except.ok.inj e]
    exact within_append hh hq
  · cases e

theorem within_send (hh : h.Within caps) {s : Sending} (e : h.send s = .ok g) :
    g.Within caps := by
  have hs : caps.has s.capability = true := by
    unfold send at e
    split at e
    · cases e
    · rename_i hs
      simpa [hh.same] using hs
  rw [send_eq_ok e]
  exact within_append hh (Command.within_sending hs)

theorem within_close (hh : h.Within caps) : h.close.Within caps :=
  ⟨hh.same, hh.accepted, hh.queue⟩

end Handle

theorem Script.within_run {α : Type} {caps : Capabilities} (x : Script α) {h : Handle}
    (hh : h.Within caps) : (x.run h).2.Within caps := by
  induction x generalizing h with
  | done a => exact hh
  | send s next ih =>
    unfold run
    split
    · rename_i g e
      exact ih _ (Handle.within_send hh e)
    · exact ih _ hh
  | close next ih => exact ih (Handle.within_close hh)
  | look next ih => exact ih h.view hh

namespace Channel

variable {σ : Type} {caps : Capabilities} {c : Channel σ} (hook : Hook σ)

structure Within (caps : Capabilities) (c : Channel σ) : Prop where
  handle : c.handle.Within caps
  written : ∀ q ∈ c.written, q.command.Within caps

theorem within_opened (caps : Capabilities) (s : σ) : Within caps (opened caps s) :=
  ⟨⟨rfl, nofun, nofun⟩, nofun⟩

/-! Writing -/

/-- The first command leaves the queue and cannot be written. -/
theorem within_lost (hc : Within caps c) {q : Queued} {qs : List Queued}
    (hq : c.handle.queue = q :: qs) :
    Within caps { c with handle := { c.handle with queue := qs } } :=
  ⟨⟨hc.handle.same, hc.handle.accepted, fun x hx =>
    hc.handle.queue x (hq ▸ List.mem_cons_of_mem q hx)⟩, hc.written⟩

/-- The first command leaves the queue and is written. -/
theorem within_wrote (hc : Within caps c) {q : Queued} {qs : List Queued}
    (hq : c.handle.queue = q :: qs) :
    Within caps { c with
      handle := { c.handle with queue := qs }
      deeds := c.deeds ++ [.wrote q] } := by
  refine ⟨(within_lost hc hq).handle, ?_⟩
  intro x hx
  rw [written_eq, List.filterMap_append] at hx
  rcases List.mem_append.mp hx with hx | hx
  · exact hc.written x hx
  · have hx' : x = q := List.mem_singleton.mp hx
    rw [hx']
    exact hc.handle.queue q (hq ▸ List.mem_cons_self)

theorem within_writeAll {qs : List Queued} (hc : Within caps c) (hq : c.handle.queue = qs) :
    Within caps (writeAll qs c).2 := by
  induction qs generalizing c with
  | nil => exact hc
  | cons q qs ih =>
    simp only [writeAll]
    split
    · exact within_lost hc hq
    · exact ih (within_wrote hc hq) rfl

theorem within_flush (hc : Within caps c) : Within caps c.flush.2 := within_writeAll hc rfl

theorem within_writeFirst (hc : Within caps c) {q : Queued} {qs : List Queued}
    (hq : c.handle.queue = q :: qs) : Within caps (c.writeFirst q qs).2 := by
  simp only [writeFirst]
  split
  · exact within_lost hc hq
  · exact within_wrote hc hq

theorem within_finish (hc : Within caps c) (r : Except Failure Unit) :
    Within caps (c.finish r) :=
  ⟨⟨hc.handle.same, hc.handle.accepted, hc.handle.queue⟩, hc.written⟩

theorem within_orFinish {f : Option Failure} (hc : Within caps c) :
    Within caps (orFinish (f, c)) := by
  cases f with
  | none => exact hc
  | some f => exact within_finish hc _

/-! Reading -/

theorem within_ask (hc : Within caps c) (p : Packet) : Within caps (c.ask hook p).2 := by
  have hh := Script.within_run (hook.decide c.hook p) hc.handle
  unfold ask
  generalize (hook.decide c.hook p).run c.handle = r at hh
  obtain ⟨⟨verdict, s⟩, h⟩ := r
  have hw : ∀ q ∈ (c.deeds ++ [Deed.asked p]).filterMap Deed.queued?, q.command.Within caps := by
    rw [List.filterMap_append, ← written_eq]
    simpa [Deed.queued?] using hc.written
  have turned {g : Handle} (hg : g.Within caps) :
      Within caps { c with handle := g, hook := s, deeds := c.deeds ++ [.asked p] } := ⟨hg, hw⟩
  dsimp only at hh ⊢
  split
  · rename_i hf
    have hfilter : caps.filter = true := by
      rw [hh.same, Bool.and_eq_true] at hf
      exact hf.1
    split
    · rename_i g e
      exact turned (Handle.within_put hh (Command.within_filter hfilter _ _) e)
    · exact turned hh
  · exact turned hh

theorem within_hear (hc : Within caps c) (s : String) : Within caps (c.hear hook s).2 := by
  unfold hear
  split
  · exact hc
  · split <;> exact hc
  · exact within_ask hook hc _

theorem within_hearFrame (hc : Within caps c) (f : Frame) :
    Within caps (c.hearFrame hook f).2 := by
  cases f with
  | text s =>
    have hs := within_hear hook hc s
    rcases e : c.hear hook s with ⟨_ | f, d⟩
    · simp only [hearFrame, e]
      rwa [e] at hs
    · simp only [hearFrame, e]
      rwa [e] at hs
  | binary data => exact hc
  | ping data => exact hc
  | pong data => exact hc
  | close => exact hc

theorem within_read (hc : Within caps c) (x : Arrival) : Within caps (read hook c x) := by
  cases x with
  | finished => exact within_finish hc _
  | broken text => exact within_finish hc _
  | frame f =>
    have hf := within_hearFrame hook hc f
    rcases e : c.hearFrame hook f with ⟨heard, d⟩
    rw [e] at hf
    simp only [read, e]
    cases heard with
    | goOn => exact within_orFinish (within_flush hf)
    | stop => exact within_finish hf _
    | fail g => exact within_finish hf _

/-! Runs -/

theorem within_tick (hc : Within caps c) : Within caps (c.tick hook) := by
  unfold tick
  split
  · split
    · exact within_finish (within_flush hc) _
    · split
      · rename_i q qs hq
        exact within_orFinish (within_writeFirst hc hq)
      · rename_i x rest _ _
        exact within_read hook (c := { c with arrived := rest }) ⟨hc.handle, hc.written⟩ x
      · exact hc
  · exact ⟨⟨hc.handle.same, hc.handle.accepted, nofun⟩, hc.written⟩
  · exact hc

theorem within_act (hc : Within caps c) (x : Action) : Within caps (c.act hook x).2 := by
  cases x with
  | use via s =>
    cases e : c.handle.send s with
    | error f =>
      rw [act_use_error hook e]
      exact hc
    | ok g =>
      simp only [act, Handle.use, e]
      exact ⟨Handle.within_send hc.handle e, hc.written⟩
  | close via => exact ⟨Handle.within_close hc.handle, hc.written⟩
  | arrive x => exact ⟨hc.handle, hc.written⟩
  | breakSink text => exact ⟨hc.handle, hc.written⟩
  | tick => exact within_tick hook hc

theorem within_run (caps : Capabilities) (s : σ) (xs : List Action) :
    Within caps ((opened caps s).run hook xs) := by
  induction xs using List.reverseRecOn with
  | nil => exact within_opened caps s
  | append_singleton xs x ih =>
    rw [run_snoc]
    exact within_act hook ih x

/-- Whatever the hook and the sessions behind it do, whatever clients send and whatever arrives, and
whether or not it can be written: no command is ever accepted, queued or written that the channel
was not opened for. An injection goes to the client, to the server or to both, and a verdict is yes
or no. -/
theorem only_capable (caps : Capabilities) (s : σ) (xs : List Action) (q : Queued) :
    let c := (opened caps s).run hook xs
    q ∈ c.handle.accepted ∨ q ∈ c.handle.queue ∨ q ∈ c.written →
      match q.command.kind with
      | .filter => caps.filter = true ∧ (q.command.extra = 0 ∨ q.command.extra = 1)
      | .inject => caps.inject = true ∧
          (q.command.extra = 1 ∨ q.command.extra = 2 ∨ q.command.extra = 3)
      | .close => caps.close = true := by
  intro c hq
  have hc : Within caps c := within_run hook caps s xs
  rcases hq with hq | hq | hq
  · exact hc.handle.accepted q hq
  · exact hc.handle.queue q hq
  · exact hc.written q hq

/-- A hook that tries to do everything, on a channel that may only filter: its injection is refused,
and the verdict is a yes or a no. -/
theorem only_verdict_written :
    let hook : Hook Unit := ⟨fun s p =>
      .send (.inject p.proxy [] .both) fun _ => .send (.closeProxy p.proxy) fun _ =>
        .done (some true, s)⟩
    let p : Packet := ⟨3, "tcp", "a", 5, "b", [], ⟨0⟩⟩
    let text := (Notice.packet p).encode?.getD ""
    let xs := [.arrive (.frame (.text text)), .tick]
    let q : Queued := ⟨Command.filter 3 true, true⟩
    q ∈ ((opened { filter := true } ()).run hook xs).written ∧
      (q.command.extra = 0 ∨ q.command.extra = 1) := by
  intro hook p text xs q
  have hw : ((opened { filter := true } ()).run hook xs).written = [q] := by decide +kernel
  have hq : q ∈ ((opened { filter := true } ()).run hook xs).written := by
    rw [hw]
    exact List.mem_singleton_self q
  exact ⟨hq, (only_capable hook { filter := true } () xs q (.inr (.inr hq))).2⟩

end Channel

end Intercept
