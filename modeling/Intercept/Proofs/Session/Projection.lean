import Intercept.Proofs.Session.Isolation

/-!
Runs of calls on one open channel, seen from one proxy. A call about some other proxy leaves what
this one shows as it is, and a call about this one is answered by what it shows. So from a run all
packets and removals of other proxies can be taken out, and two calls about different proxies can
change places.
-/

namespace Intercept

inductive Call where
  | decide (p : Packet)
  | dispatch (p : Packet)
  | prune (alive : List ProxyId)
  | remove (id : ProxyId)
  | closeAll

namespace Call

def proxy? : Call → Option ProxyId
  | .decide p => some p.proxy
  | .dispatch p => some p.proxy
  | .remove id => some id
  | .prune _ => none
  | .closeAll => none

def concerns (a : ProxyId) (c : Call) : Bool := c.proxy?.all (· == a)

/-- The answer is a verdict, or whether there was a session to remove; there is none if session code
fell apart, and none to what is asked about all proxies. -/
def script {ω σ : Type} (hub : Hub) (code : SessionCode ω σ) (t : Table ω σ) :
    Call → Script (Option (Option Bool) × Table ω σ)
  | .decide p => do
    let (verdict, t) ← hub.decide code t p
    return (verdict.map some, t)
  | .dispatch p => t.dispatch code p
  | .prune alive => .done (none, (t.prune code alive).2)
  | .remove id => .done ((t.remove code id).1.map some, (t.remove code id).2)
  | .closeAll => .done (none, (t.closeAll code).2)

end Call

structure Desk (ω σ : Type) where
  table : Table ω σ
  handle : Handle

structure Reply where
  answer : Option (Option Bool)
  queued : List Queued

namespace Desk

variable {ω σ : Type} (hub : Hub) (code : SessionCode ω σ)

def step (d : Desk ω σ) (c : Call) : Desk ω σ :=
  let r := (c.script hub code d.table).run d.handle
  ⟨r.1.2, r.2⟩

def run (d : Desk ω σ) (calls : List Call) : Desk ω σ := calls.foldl (step hub code) d

def reply (d : Desk ω σ) (c : Call) : Reply :=
  let r := (c.script hub code d.table).run d.handle
  ⟨r.1.1, r.2.accepted.drop d.handle.accepted.length⟩

def replies (a : ProxyId) : Desk ω σ → List Call → List Reply
  | _, [] => []
  | d, c :: calls =>
    if c.proxy? = some a then reply hub code d c :: replies a (step hub code d c) calls
    else replies a (step hub code d c) calls

end Desk

open Script Table

variable {ω σ : Type} {hub : Hub} {code : SessionCode ω σ} {caps : Capabilities} {a : ProxyId}

/-! One call -/

namespace Call

theorem concerns_iff {c : Call} : c.concerns a = true ↔ c.proxy? = none ∨ c.proxy? = some a := by
  cases h : c.proxy? <;> simp [concerns, h]

theorem not_concerns {c : Call} {id : ProxyId} (h : c.proxy? = some id) (hne : id ≠ a) :
    c.concerns a = false := by
  simp [concerns, h, hne]

theorem agree_decide (ha : code.Apart caps) {t t' : Table ω σ} {p : Packet}
    (h : t.share p.proxy = t'.share p.proxy) :
    Agree caps (Same p.proxy) (hub.decide code t p) (hub.decide code t' p) := by
  unfold Hub.decide
  split
  · refine agree_bind (agree_dispatch ha h) ?_
    rintro ⟨verdict, t₁⟩ ⟨verdict', t₁'⟩ ⟨hv, hs⟩
    obtain rfl : verdict = verdict' := hv
    exact agree_done ⟨rfl, hs⟩
  · exact agree_done ⟨rfl, h⟩

/-- A call that concerns a proxy does to it what its share says, and is answered by that. -/
theorem agree_script (hub : Hub) (ha : code.Apart caps) {c : Call} (hc : c.concerns a = true)
    {t t' : Table ω σ} (h : t.share a = t'.share a) :
    Agree caps (Same a) (c.script hub code t) (c.script hub code t') := by
  have hproxy := concerns_iff.mp hc
  cases c with
  | decide p =>
    obtain rfl : p.proxy = a := Option.some.inj (hproxy.resolve_left nofun)
    refine agree_bind (agree_decide ha h) ?_
    rintro ⟨verdict, t₁⟩ ⟨verdict', t₁'⟩ ⟨hv, hs⟩
    obtain rfl : verdict = verdict' := hv
    exact agree_done ⟨rfl, hs⟩
  | dispatch p =>
    obtain rfl : p.proxy = a := Option.some.inj (hproxy.resolve_left nofun)
    exact agree_dispatch ha h
  | prune alive =>
    refine agree_done ⟨rfl, ?_⟩
    rw [share_prune ha.close, share_prune ha.close, h]
  | remove id =>
    obtain rfl : id = a := Option.some.inj (hproxy.resolve_left nofun)
    have hsession : t.session id = t'.session id := congrArg Share.session h
    refine agree_done ⟨?_, ?_⟩
    · rw [remove_answer ha.close, remove_answer ha.close, hsession]
    · rw [share_remove ha.close, share_remove ha.close, h]
  | closeAll =>
    refine agree_done ⟨rfl, ?_⟩
    rw [share_closeAll ha.close, share_closeAll ha.close, h]

theorem share_decide_other (t : Table ω σ) {p : Packet} (hp : p.proxy ≠ a) (h : Handle) :
    ((hub.decide code t p).run h).1.2.share a = t.share a := by
  unfold Hub.decide
  split
  · rw [run_bind]
    exact share_dispatch_other t hp h
  · rfl

/-- A call about another proxy does not show. -/
theorem share_script_other (ha : code.Apart caps) {c : Call} (hc : c.concerns a = false)
    (t : Table ω σ) (h : Handle) : ((c.script hub code t).run h).1.2.share a = t.share a := by
  cases c with
  | decide p =>
    have hp : p.proxy ≠ a := by simpa [concerns, proxy?] using hc
    rw [script, run_bind]
    exact share_decide_other t hp h
  | dispatch p =>
    have hp : p.proxy ≠ a := by simpa [concerns, proxy?] using hc
    exact share_dispatch_other t hp h
  | remove id =>
    have hid : id ≠ a := by simpa [concerns, proxy?] using hc
    exact (share_remove ha.close t id a).trans (if_neg hid.symm)
  | prune alive => cases hc
  | closeAll => cases hc

end Call

/-! One step of a desk -/

namespace Desk

variable {d d' : Desk ω σ} {c c' : Call}

def Open (caps : Capabilities) (d : Desk ω σ) : Prop :=
  ∃ q acc, d.handle = .live caps false q acc

theorem cancelled_run (hd : d.handle.cancelled = true) (calls : List Call) :
    (d.run hub code calls).handle.cancelled = true := by
  induction calls generalizing d with
  | nil => exact hd
  | cons c calls ih => exact ih (Script.cancelled_run _ hd)

/-- A run that ends on an open channel began on one. -/
theorem open_of_run (calls : List Call) (h : (d.run hub code calls).handle.cancelled = false) :
    d.handle.cancelled = false := by
  cases hd : d.handle.cancelled with
  | false => rfl
  | true =>
    rw [cancelled_run hd] at h
    cases h

theorem open_step (ho : d.Open caps) (h : (d.step hub code c).handle.cancelled = false) :
    (d.step hub code c).Open caps ∧
      (d.step hub code c).handle.accepted = d.handle.accepted ++ (d.reply hub code c).queued := by
  obtain ⟨q, acc, hd⟩ := ho
  have hrun := run_live (c.script hub code d.table) caps false q acc
  have hc : ((c.script hub code d.table).run d.handle).2.cancelled = false := h
  rw [hd] at hc
  rw [hc] at hrun
  have hhandle : (d.step hub code c).handle = .live caps false
      (q ++ (c.script hub code d.table).sent (.live caps false q acc))
      (acc ++ (c.script hub code d.table).sent (.live caps false q acc)) := by
    rw [step, hd]
    exact hrun
  refine ⟨⟨_, _, hhandle⟩, ?_⟩
  have hqueued : (d.reply hub code c).queued =
      (d.step hub code c).handle.accepted.drop d.handle.accepted.length := rfl
  rw [hqueued, hhandle, hd]
  simp [Handle.live]

theorem open_run (ho : d.Open caps) {calls : List Call}
    (h : (d.run hub code calls).handle.cancelled = false) : (d.run hub code calls).Open caps := by
  induction calls generalizing d with
  | nil => exact ho
  | cons c calls ih => exact ih (open_step ho (open_of_run calls h)).1 h

theorem step_alike (ha : code.Apart caps) (ho : d.Open caps) (ho' : d'.Open caps)
    (hc : c.concerns a = true) (h : d.table.share a = d'.table.share a)
    (hopen : (d.step hub code c).handle.cancelled = false) :
    (d'.step hub code c).handle.cancelled = false ∧
      (d.step hub code c).table.share a = (d'.step hub code c).table.share a ∧
      d.reply hub code c = d'.reply hub code c := by
  obtain ⟨q, acc, hd⟩ := ho
  obtain ⟨q', acc', hd'⟩ := ho'
  rcases Call.agree_script hub ha hc h q acc q' acc' with
    ⟨hx, -⟩ | ⟨m, u, v, ⟨huv, hs⟩, hx, hy⟩
  · rw [step, hd, hx] at hopen
    cases hopen
  · simp only [step, reply, hd, hd', hx, hy, huv]
    refine ⟨rfl, hs, ?_⟩
    simp [Handle.live]

theorem share_step_other (hub : Hub) (ha : code.Apart caps) (hc : c.concerns a = false)
    (d : Desk ω σ) : (d.step hub code c).table.share a = d.table.share a :=
  Call.share_script_other ha hc d.table d.handle

/-! Runs -/

/-- What a run shows of a proxy is left when all that does not concern it is taken out. -/
theorem run_projected (ha : code.Apart caps) (ho : d.Open caps) (ho' : d'.Open caps)
    (h : d.table.share a = d'.table.share a) {calls : List Call}
    (hopen : (d.run hub code calls).handle.cancelled = false) :
    (d.run hub code calls).table.share a =
        (d'.run hub code (calls.filter (Call.concerns a))).table.share a ∧
      d.replies hub code a calls = d'.replies hub code a (calls.filter (Call.concerns a)) := by
  induction calls generalizing d d' with
  | nil => exact ⟨h, rfl⟩
  | cons c calls ih =>
    -- no call of the run closes the channel, since it would be closed at the end
    have hstep : (d.step hub code c).handle.cancelled = false := open_of_run _ hopen
    obtain ⟨ho₁, -⟩ := open_step ho hstep
    cases hc : c.concerns a with
    | true =>
      obtain ⟨hstep', hs, hr⟩ := step_alike ha ho ho' hc h hstep
      obtain ⟨ho₁', -⟩ := open_step ho' hstep'
      obtain ⟨hshare, hreplies⟩ := ih ho₁ ho₁' hs hopen
      rw [List.filter_cons_of_pos hc]
      refine ⟨hshare, ?_⟩
      rw [replies, replies, hr, hreplies]
    | false =>
      have hs := (share_step_other hub ha hc d).trans h
      have hne : c.proxy? ≠ some a := by
        intro hp
        rw [Call.concerns_iff.mpr (.inr hp)] at hc
        cases hc
      rw [List.filter_cons_of_neg (by rw [hc]; exact Bool.false_ne_true), replies, if_neg hne]
      exact ih ho₁ ho' hs hopen

/-- Calls about different proxies can be made in either order. -/
theorem step_swap (ha : code.Apart caps) (ho : d.Open caps) {x y : ProxyId}
    (hc : c.proxy? = some x) (hc' : c'.proxy? = some y) (hxy : x ≠ y)
    (hopen : ((d.step hub code c).step hub code c').handle.cancelled = false) :
    ((d.step hub code c).step hub code c').Open caps ∧
      ((d.step hub code c').step hub code c).Open caps ∧
      (∀ a, ((d.step hub code c).step hub code c').table.share a =
        ((d.step hub code c').step hub code c).table.share a) ∧
      ((d.step hub code c').step hub code c).handle.accepted.Perm
        ((d.step hub code c).step hub code c').handle.accepted := by
  have hcx : c.concerns x = true := Call.concerns_iff.mpr (.inr hc)
  have hcy' : c'.concerns y = true := Call.concerns_iff.mpr (.inr hc')
  have hother {b : ProxyId} (hb : x ≠ b) (e : Desk ω σ) :
      (e.step hub code c).table.share b = e.table.share b :=
    share_step_other hub ha (Call.not_concerns hc hb) e
  have hother' {b : ProxyId} (hb : y ≠ b) (e : Desk ω σ) :
      (e.step hub code c').table.share b = e.table.share b :=
    share_step_other hub ha (Call.not_concerns hc' hb) e
  -- the first call changes nothing for the second one, and the second one nothing for the first
  have hstep : (d.step hub code c).handle.cancelled = false :=
    open_of_run [c'] hopen
  obtain ⟨ho₁, hacc₁⟩ := open_step ho hstep
  obtain ⟨ho₂, hacc₂⟩ := open_step ho₁ hopen
  obtain ⟨hstep', hsy, hry⟩ := step_alike ha ho₁ ho hcy' (hother hxy d) hopen
  obtain ⟨ho₁', hacc₁'⟩ := open_step ho hstep'
  obtain ⟨hopen', hsx, hrx⟩ := step_alike ha ho ho₁' hcx (hother' hxy.symm d).symm hstep
  obtain ⟨ho₂', hacc₂'⟩ := open_step ho₁' hopen'
  refine ⟨ho₂, ho₂', fun a => ?_, ?_⟩
  · by_cases hax : x = a
    · subst hax
      rw [hother' hxy.symm, hsx]
    · by_cases hay : y = a
      · subst hay
        rw [hsy, hother hxy]
      · rw [hother' hay, hother hax, hother hax, hother' hay]
  · rw [hacc₂', hacc₁', hacc₂, hacc₁, hry, ← hrx, List.append_assoc, List.append_assoc]
    exact List.perm_append_comm.append_left _

/-- Desks that show the same of every proxy go on in the same way. -/
theorem run_alike (ha : code.Apart caps) (ho : d.Open caps) (ho' : d'.Open caps)
    (h : ∀ a, d.table.share a = d'.table.share a)
    (hp : d'.handle.accepted.Perm d.handle.accepted) {calls : List Call}
    (hopen : (d.run hub code calls).handle.cancelled = false) :
    (d'.run hub code calls).Open caps ∧
      (d'.run hub code calls).handle.accepted.Perm (d.run hub code calls).handle.accepted := by
  induction calls generalizing d d' with
  | nil => exact ⟨ho', hp⟩
  | cons c calls ih =>
    have hstep : (d.step hub code c).handle.cancelled = false := open_of_run _ hopen
    have hown : c.concerns (c.proxy?.getD 0) = true := by
      cases hc : c.proxy? <;> simp [Call.concerns, hc]
    obtain ⟨hstep', -, hr⟩ := step_alike ha ho ho' hown (h _) hstep
    obtain ⟨ho₁, hacc⟩ := open_step ho hstep
    obtain ⟨ho₁', hacc'⟩ := open_step ho' hstep'
    refine ih ho₁ ho₁' (fun a => ?_) ?_ hopen
    · cases hc : c.concerns a with
      | true => exact (step_alike ha ho ho' hc (h a) hstep).2.1
      | false => rw [share_step_other hub ha hc, share_step_other hub ha hc, h a]
    · rw [hacc, hacc', hr]
      exact hp.append_right _

theorem cancelled_of_alive {h : Handle} (ha : h.isAlive = true) : h.cancelled = false := by
  cases hc : h.cancelled with
  | false => rfl
  | true => simp [Handle.isAlive, hc] at ha

theorem alive_of_open (ho : d.Open caps) : d.handle.isAlive = true := by
  obtain ⟨q, acc, hd⟩ := ho
  rw [hd, Handle.isAlive_live]
  rfl

theorem run_append (d : Desk ω σ) (calls more : List Call) :
    d.run hub code (calls ++ more) = (d.run hub code calls).run hub code more :=
  List.foldl_append

/-- Nothing is lost or added when two calls about different proxies change places. -/
theorem run_swap (ha : code.Apart caps) (ho : d.Open caps) {x y : ProxyId}
    (hc : c.proxy? = some x) (hc' : c'.proxy? = some y) (hxy : x ≠ y) (pre post : List Call)
    (hopen : (d.run hub code (pre ++ c :: c' :: post)).handle.cancelled = false) :
    (d.run hub code (pre ++ c' :: c :: post)).Open caps ∧
      (d.run hub code (pre ++ c' :: c :: post)).handle.accepted.Perm
        (d.run hub code (pre ++ c :: c' :: post)).handle.accepted := by
  rw [run_append] at hopen ⊢
  rw [run_append]
  have hpre : (d.run hub code pre).Open caps := open_run ho (open_of_run (c :: c' :: post) hopen)
  have hpair : (((d.run hub code pre).step hub code c).step hub code c').handle.cancelled = false :=
    open_of_run post hopen
  obtain ⟨ho₁, ho₂, hshares, hperm⟩ := step_swap ha hpre hc hc' hxy hpair
  exact run_alike ha ho₁ ho₂ hshares hperm hopen

/-- A proxy does not see the order of two calls if one of them is none of its own. -/
theorem filter_swap {x y : ProxyId} (hc : c.proxy? = some x) (hc' : c'.proxy? = some y)
    (hxy : x ≠ y) (a : ProxyId) (pre post : List Call) :
    (pre ++ c :: c' :: post).filter (Call.concerns a) =
      (pre ++ c' :: c :: post).filter (Call.concerns a) := by
  rw [List.filter_append, List.filter_append]
  congr 1
  by_cases hx : x = a
  · have hother : ¬ c'.concerns a = true := by
      rw [Call.not_concerns hc' fun hy => hxy (hx.trans hy.symm)]
      exact Bool.false_ne_true
    rw [List.filter_cons, List.filter_cons_of_neg hother, List.filter_cons_of_neg hother,
      List.filter_cons]
  · have hother : ¬ c.concerns a = true := by
      rw [Call.not_concerns hc hx]
      exact Bool.false_ne_true
    rw [List.filter_cons_of_neg hother, List.filter_cons, List.filter_cons,
      List.filter_cons_of_neg hother]

/-- On a channel that stays open, each proxy gets the answers it would get, queues the commands it
would queue, and has the session and the story it would have, if there were no packets and no
removals but its own. Calls about different proxies can change places; then the same commands are
queued in some other order. -/
theorem isolated (hub : Hub) (code : SessionCode ω σ) (caps : Capabilities)
    (ha : code.Apart caps) (t : Table ω σ) (q acc : List Queued) :
    let d : Desk ω σ := ⟨t, .live caps false q acc⟩
    (∀ calls, (d.run hub code calls).handle.isAlive = true → ∀ a,
      d.replies hub code a calls = d.replies hub code a (calls.filter (Call.concerns a)) ∧
      ∀ pre, pre <+: calls →
        let all := (d.run hub code pre).table
        let own := (d.run hub code (pre.filter (Call.concerns a))).table
        all.session a = own.session a ∧ all.story a = own.story a ∧
          all.closedIds.count a = own.closedIds.count a) ∧
    (∀ pre c c' post x y, c.proxy? = some x → c'.proxy? = some y → x ≠ y →
      let one := pre ++ c :: c' :: post
      let other := pre ++ c' :: c :: post
      (d.run hub code one).handle.isAlive = true →
      (d.run hub code other).handle.isAlive = true ∧
      (d.run hub code other).handle.accepted.Perm (d.run hub code one).handle.accepted ∧
      ∀ a, d.replies hub code a one = d.replies hub code a other ∧
        (d.run hub code one).table.session a = (d.run hub code other).table.session a ∧
        (d.run hub code one).table.story a = (d.run hub code other).table.story a) := by
  intro d
  have ho : d.Open caps := ⟨q, acc, rfl⟩
  constructor
  · intro calls halive a
    have hopen := cancelled_of_alive halive
    refine ⟨(run_projected ha ho ho rfl hopen).2, ?_⟩
    rintro pre ⟨rest, rfl⟩ all own
    have hpre : (d.run hub code pre).handle.cancelled = false := by
      rw [run_append] at hopen
      exact open_of_run rest hopen
    have hshare : all.share a = own.share a := (run_projected ha ho ho rfl hpre).1
    have hstory : all.story a = own.story a := congrArg Share.story hshare
    exact ⟨congrArg Share.session hshare, hstory, by
      rw [count_closedIds, count_closedIds, hstory]⟩
  · intro pre c c' post x y hc hc' hxy one other halive
    have hopen := cancelled_of_alive halive
    obtain ⟨hlast, haccepted⟩ := run_swap ha ho hc hc' hxy pre post hopen
    have hopen' := cancelled_of_alive (alive_of_open hlast)
    refine ⟨alive_of_open hlast, haccepted, fun a => ?_⟩
    obtain ⟨hs, hr⟩ := run_projected (a := a) ha ho ho rfl hopen
    obtain ⟨hs', hr'⟩ := run_projected (a := a) ha ho ho rfl hopen'
    have hkept := filter_swap hc hc' hxy a pre post
    rw [hkept] at hs hr
    have hshare := hs.trans hs'.symm
    exact ⟨hr.trans hr'.symm, congrArg Share.session hshare, congrArg Share.story hshare⟩

/-- Sessions that live for two packets, greet each of them, and fall apart at an empty one. -/
def shortLived : SessionCode Unit Nat where
  create _ _ := .done (.ok 0, ())
  isAlive _ n := (some (n < 2), n, ())
  handle _ n p := .send (.inject p.proxy [1] .toClient) fun _ =>
    .done (if p.data.isEmpty then .collapsed else .ok true, n + 1, ())
  close _ _ := (true, ())

/-- A proxy whose session falls apart and is removed again and again, next to one whose session
lives and dies undisturbed. -/
theorem isolated_short_lived :
    let packet (id : ProxyId) (data : List UInt8) : Packet := ⟨0, "tcp", "", id, "", data, ⟨1⟩⟩
    let d : Desk Unit Nat := ⟨{ world := () }, .live { inject := true } false [] []⟩
    let mine : Call := .decide (packet 1 [7])
    let theirs : Call := .dispatch (packet 2 [])
    let calls := [mine, theirs, mine, .remove 2, .prune [1, 2], theirs, mine]
    let own := [mine, mine, .prune [1, 2], mine]
    (d.run {} shortLived calls).handle.isAlive = true ∧
      (d.run {} shortLived calls).table.closedIds = [2, 2, 1] ∧
      d.replies {} shortLived 1 calls = d.replies {} shortLived 1 own ∧
      (d.run {} shortLived calls).table.closedIds.count 1 =
        (d.run {} shortLived own).table.closedIds.count 1 ∧
      (d.run {} shortLived (theirs :: mine :: calls)).handle.accepted.Perm
        (d.run {} shortLived (mine :: theirs :: calls)).handle.accepted := by
  intro packet d mine theirs calls own
  obtain ⟨hprojected, hswapped⟩ := isolated {} shortLived { inject := true }
    (SessionCode.apart_of_unit (fun _ => rfl) _) { world := () } [] []
  have halive : (d.run {} shortLived calls).handle.isAlive = true := by
    dsimp only [d, calls, mine, theirs, packet]
    rfl
  have hmore : (d.run {} shortLived (mine :: theirs :: calls)).handle.isAlive = true := by
    dsimp only [d, calls, mine, theirs, packet]
    rfl
  have hclosed : (d.run {} shortLived calls).table.closedIds = [2, 2, 1] := by
    dsimp only [d, calls, mine, theirs, packet]
    rfl
  have hown : calls.filter (Call.concerns 1) = own := rfl
  obtain ⟨hreplies, hprefix⟩ := hprojected calls halive 1
  obtain ⟨-, -, hcloses⟩ := hprefix calls (List.prefix_refl calls)
  obtain ⟨-, hperm, -⟩ := hswapped [] mine theirs calls 1 2 rfl rfl (by decide) hmore
  rw [hown] at hreplies hcloses
  have hd : (⟨{ world := () }, .live { inject := true } false [] []⟩ : Desk Unit Nat) = d := rfl
  rw [List.nil_append, List.nil_append, hd] at hperm
  exact ⟨halive, hclosed, hreplies, hcloses, hperm⟩

end Desk

end Intercept
