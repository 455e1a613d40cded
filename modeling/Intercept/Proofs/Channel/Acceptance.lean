import Intercept.Channel.Handle
import Mathlib.Data.List.Induction

/-!
Which sends are accepted. A handle is a place where a record is, and a clone is the same place, so
what comes of a run depends on what was done, not on which handle it was done through. The record
knows whether a close and a drop of the receiver were among that, and nothing else decides about a
send but the capabilities.
-/

namespace Intercept

inductive Holding where
  | clone (holder : Nat)
  | use (holder : Nat) (u : Use)
deriving DecidableEq, Repr

/-- Handles as they are held: the records, and for each holder the place of its record. -/
structure Holders where
  records : List Handle
  places : List Nat

namespace Holders

def detached (caps : Capabilities) : Holders := ⟨[Handle.detached caps], [0]⟩

/-- A clone is made by copying a place. Who does not hold a handle can do nothing. -/
def step (s : Holders) : Holding → Option (Except Failure Unit) × Holders
  | .clone i =>
    match s.places[i]? with
    | some a => (none, { s with places := s.places ++ [a] })
    | none => (none, s)
  | .use i u =>
    match s.places[i]?.bind fun a => s.records[a]?.map (a, ·) with
    | some (a, h) => (some (h.use i u).1, { s with records := s.records.set a (h.use i u).2 })
    | none => (none, s)

def run : Holders → List Holding → List (Except Failure Unit) × Holders
  | s, [] => ([], s)
  | s, x :: xs => ((s.step x).1.toList ++ ((s.step x).2.run xs).1, ((s.step x).2.run xs).2)

end Holders

/-- Only handles that there are, of `n` at the start, are cloned and used. -/
def Held : Nat → List Holding → Prop
  | _, [] => True
  | n, .clone i :: xs => i < n ∧ Held (n + 1) xs
  | n, .use i _ :: xs => i < n ∧ Held n xs

def uses (xs : List Holding) : List Use :=
  xs.filterMap fun
    | .use _ u => some u
    | .clone _ => none

namespace Handle

def useAll : Handle → List Use → List (Except Failure Unit) × Handle
  | h, [] => ([], h)
  | h, u :: us => ((h.use 0 u).1 :: ((h.use 0 u).2.useAll us).1, ((h.use 0 u).2.useAll us).2)

theorem use_via (h : Handle) (i j : Nat) (u : Use) : h.use i u = h.use j u := by
  cases u <;> rfl

theorem useAll_snoc (h : Handle) (us : List Use) (u : Use) :
    (h.useAll (us ++ [u])).2 = ((h.useAll us).2.use 0 u).2 := by
  induction us generalizing h with
  | nil => rfl
  | cons v us ih => exact ih _

structure Knows (caps : Capabilities) (us : List Use) (h : Handle) : Prop where
  caps : h.caps = caps
  state : h.state = if Use.close ∈ us then .closing else .opened
  cancelled : h.cancelled = true ↔ Use.close ∈ us
  received : h.received = true ↔ Use.dropReceiver ∉ us

theorem Knows.alive_iff {caps : Capabilities} {us : List Use} {h : Handle} (hk : Knows caps us h) :
    h.isAlive = true ↔ Use.close ∉ us := by
  have hc := hk.cancelled
  have hs := hk.state
  unfold isAlive
  by_cases hin : Use.close ∈ us <;> simp_all

theorem Knows.use {caps : Capabilities} {us : List Use} {h : Handle} (hk : Knows caps us h)
    (u : Use) : Knows caps (us ++ [u]) (h.use 0 u).2 := by
  have hc := hk.cancelled
  have hs := hk.state
  have hr := hk.received
  cases u with
  | send x =>
    have hsame : Knows caps (us ++ [.send x]) h :=
      ⟨hk.caps, by simp [hs], by simp [hc], by simp [hr]⟩
    simp only [Handle.use]
    cases hx : h.send x with
    | error f => exact hsame
    | ok g =>
      rw [send_eq_ok hx]
      exact ⟨hsame.caps, hsame.state, hsame.cancelled, hsame.received⟩
  | close =>
    refine ⟨hk.caps, ?_, by simp [Handle.use, close], by simp [Handle.use, close, hr]⟩
    simp only [Handle.use, close, hs]
    split <;> simp_all
  | dropReceiver =>
    exact ⟨hk.caps, by simp [Handle.use, dropReceiver, hs],
      by simp [Handle.use, dropReceiver, hc], by simp [Handle.use, dropReceiver]⟩

theorem knows_useAll (caps : Capabilities) (us : List Use) :
    Knows caps us ((detached caps).useAll us).2 := by
  induction us using List.reverseRecOn with
  | nil => exact ⟨rfl, rfl, by simp [useAll, detached, fresh], by simp [useAll, detached, fresh]⟩
  | append_singleton us u ih =>
    rw [useAll_snoc]
    exact ih.use u

/-- What comes of a send, by what the handle knows. -/
theorem Knows.send {caps : Capabilities} {us : List Use} {h : Handle} (hk : Knows caps us h)
    (x : Sending) :
    if caps.has x.capability = true ∧ Use.close ∉ us ∧ Use.dropReceiver ∉ us then
      h.use 0 (.send x) = (.ok (), { h with
        queue := h.queue ++ [⟨x.command, false⟩]
        accepted := h.accepted ++ [⟨x.command, false⟩] })
    else
      h.use 0 (.send x) = (.error (if caps.has x.capability = true then .channelClosed
        else .missingCapability x.capability), h) := by
  have ha := hk.alive_iff
  have hr := hk.received
  have hcaps := hk.caps
  simp only [Handle.use, Handle.send, put, hcaps]
  by_cases hx : caps.has x.capability = true
  · by_cases hclose : Use.close ∈ us
    · have hdead : h.isAlive = false := by simpa [hclose] using ha
      simp [hx, hclose, hdead]
    · have halive : h.isAlive = true := ha.mpr hclose
      by_cases hdrop : Use.dropReceiver ∈ us
      · have hgone : h.received = false := by simpa [hdrop] using hr
        simp [hx, hdrop, halive, hgone]
      · have hthere : h.received = true := hr.mpr hdrop
        simp [hx, hclose, hdrop, halive, hthere]
  · simp [hx]

end Handle

namespace Holders

structure Shared (h : Handle) (n : Nat) (s : Holders) : Prop where
  records : s.records = [h]
  places : s.places = List.replicate n 0

theorem shared_detached (caps : Capabilities) : Shared (Handle.detached caps) 1 (detached caps) :=
  ⟨rfl, rfl⟩

theorem Shared.clone {h : Handle} {n i : Nat} {s : Holders} (hs : Shared h n s) (hi : i < n) :
    (s.step (.clone i)).1 = none ∧ Shared h (n + 1) (s.step (.clone i)).2 := by
  have hplace : s.places[i]? = some 0 := by
    rw [hs.places, List.getElem?_replicate, if_pos hi]
  refine ⟨?_, ?_, ?_⟩
  · rw [step, hplace]
  · rw [step, hplace]
    exact hs.records
  · rw [step, hplace, List.replicate_succ', ← hs.places]

theorem Shared.use {h : Handle} {n i : Nat} {s : Holders} (hs : Shared h n s) (hi : i < n)
    (u : Use) :
    s.step (.use i u) = (some (h.use 0 u).1, { s with records := [(h.use 0 u).2] }) := by
  have hplace : s.places[i]? = some 0 := by
    rw [hs.places, List.getElem?_replicate, if_pos hi]
  simp [step, hplace, hs.records, h.use_via i 0]

/-- What comes of a run is what comes of its uses, all of one handle. -/
theorem run_shared {h : Handle} {n : Nat} {s : Holders} (hs : Shared h n s) {xs : List Holding}
    (hx : Held n xs) :
    (s.run xs).1 = (h.useAll (uses xs)).1 ∧
      ∃ m, Shared (h.useAll (uses xs)).2 m (s.run xs).2 := by
  induction xs generalizing h n s with
  | nil => exact ⟨rfl, n, hs⟩
  | cons x xs ih =>
    cases x with
    | clone i =>
      obtain ⟨hi, hx⟩ := hx
      obtain ⟨hnone, hshared⟩ := hs.clone hi
      simp only [run, hnone]
      exact ih hshared hx
    | use i u =>
      obtain ⟨hi, hx⟩ := hx
      have hnext : Shared (h.use 0 u).2 n { s with records := [(h.use 0 u).2] } :=
        ⟨rfl, hs.places⟩
      obtain ⟨hresults, m, hshared⟩ := ih hnext hx
      simp only [run, hs.use hi u]
      refine ⟨?_, m, hshared⟩
      rw [hresults]
      rfl

/-- For every run with an open handle and its clones, and every handle that is held in the end: a
send is accepted just if the channel has the capability, no handle was closed and the receiver is
there. A command that is accepted stands behind all others, and nothing else has changed. One that
is not changes nothing at all, and what it lacks is named first. All this, and what came of
everything before, is the same in every run in which the same was done through other handles. -/
theorem accepted_iff (caps : Capabilities) (xs : List Holding) (hx : Held 1 xs) :
    let s := ((detached caps).run xs).2
    ∃ h, s.records = [h] ∧ (h.isAlive = true ↔ Use.close ∉ uses xs) ∧
      (∀ i < s.places.length, ∀ x : Sending,
        let r := s.step (.use i (.send x))
        (r.1 = some (.ok ()) ↔ caps.has x.capability = true ∧ Use.close ∉ uses xs ∧
          Use.dropReceiver ∉ uses xs) ∧
        (r.1 = some (.ok ()) → r.2 = { s with records := [{ h with
          queue := h.queue ++ [⟨x.command, false⟩]
          accepted := h.accepted ++ [⟨x.command, false⟩] }] }) ∧
        (r.1 ≠ some (.ok ()) → r.2 = s ∧
          r.1 = some (.error (if caps.has x.capability = true then .channelClosed
            else .missingCapability x.capability)))) ∧
      ∀ ys, Held 1 ys → uses ys = uses xs →
        ((detached caps).run ys).1 = ((detached caps).run xs).1 ∧
        ((detached caps).run ys).2.records = s.records := by
  intro s
  obtain ⟨hresults, n, hs⟩ := run_shared (shared_detached caps) hx
  have hknows := Handle.knows_useAll caps (uses xs)
  refine ⟨_, hs.records, hknows.alive_iff, ?_, ?_⟩
  · intro i hi x r
    have hi' : i < n := by
      have hlen : s.places.length = n := by rw [hs.places, List.length_replicate]
      omega
    have hr : r = _ := hs.use hi' (.send x)
    have hsend := hknows.send x
    split at hsend
    · rename_i hfree
      rw [hr, hsend]
      exact ⟨⟨fun _ => hfree, fun _ => rfl⟩, fun _ => rfl, fun hne => absurd rfl hne⟩
    · rename_i hbarred
      have hkept : ({ s with records := [((Handle.detached caps).useAll (uses xs)).2] } : Holders) =
          s := by rw [← hs.records]
      rw [hr, hsend]
      refine ⟨⟨nofun, fun hfree => absurd hfree hbarred⟩, nofun, fun _ => ⟨hkept, rfl⟩⟩
  · intro ys hy hsame
    obtain ⟨hresults', m, hs'⟩ := run_shared (shared_detached caps) hy
    rw [hresults', hresults, hs'.records, hs.records, hsame]
    exact ⟨rfl, rfl⟩

/-- A clone of a clone closes the channel. The handle that everything began with may then send
nothing more, and is told first what it may never send. -/
theorem refused_after_close :
    let xs : List Holding :=
      [.clone 0, .use 1 (.send (.filter 3 true)), .clone 1, .use 2 .close]
    let ys : List Holding := [.use 0 (.send (.filter 3 true)), .use 0 .close]
    let s := ((detached { filter := true }).run xs).2
    Held 1 xs ∧ Held 1 ys ∧
      s.step (.use 0 (.send (.filter 4 false))) = (some (.error .channelClosed), s) ∧
      s.step (.use 0 (.send (.closeProxy 7))) = (some (.error (.missingCapability .close)), s) ∧
      ((detached { filter := true }).run ys).2.records = s.records ∧
      s.records.map (·.queue.length) = [1] := by
  intro xs ys s
  have hx : Held 1 xs := by simp [xs, Held]
  have hy : Held 1 ys := by simp [ys, Held]
  obtain ⟨h, -, -, hsend, hother⟩ := accepted_iff { filter := true } xs hx
  have hclosed : Use.close ∈ uses xs := by decide
  have hrefused (x : Sending) : (s.step (.use 0 (.send x))).1 ≠ some (.ok ()) :=
    fun hok => ((hsend 0 (by decide) x).1.mp hok).2.1 hclosed
  obtain ⟨-, -, hfilter⟩ := hsend 0 (by decide) (.filter 4 false)
  obtain ⟨-, -, hclose⟩ := hsend 0 (by decide) (.closeProxy 7)
  obtain ⟨hsame, herror⟩ := hfilter (hrefused _)
  obtain ⟨hsame', herror'⟩ := hclose (hrefused _)
  obtain ⟨-, hrecords⟩ := hother ys hy rfl
  exact ⟨hx, hy, Prod.ext herror hsame, Prod.ext herror' hsame', hrecords, rfl⟩

end Holders

end Intercept
