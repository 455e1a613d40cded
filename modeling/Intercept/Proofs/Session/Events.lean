import Intercept.Session.Table
import Mathlib.Data.List.Induction
import Mathlib.Data.Multiset.UnionInter

/-!
The events of a table, read without the table. Which sessions are alive follows from what was made
and what was closed, and an event is in order if session code may be asked for it at that point.
Events in order lose no session and close none twice.
-/

namespace Intercept.SessionLog

/-- A session as events name it: its number and its proxy. -/
abbrev Key := Nat × ProxyId

def makings (log : List SessionEvent) : List Key :=
  log.filterMap fun
    | .made n id => some (n, id)
    | _ => none

def closings (log : List SessionEvent) : List Key :=
  log.filterMap fun
    | .closed n id => some (n, id)
    | _ => none

def liveStep (live : List Key) : SessionEvent → List Key
  | .made n id => live ++ [(n, id)]
  | .closed n id => live.erase (n, id)
  | _ => live

def live (log : List SessionEvent) : List Key := log.foldl liveStep []

def liveIds (log : List SessionEvent) : List ProxyId := (live log).map Prod.snd

/-- Whether session code may be asked for this after these events. -/
def InOrder (log : List SessionEvent) : SessionEvent → Prop
  | .made n id => id ∉ liveIds log ∧ n ∉ (makings log).map Prod.fst
  | .notMade id => id ∉ liveIds log
  | .probed n id _ => (n, id) ∈ live log
  | .handled n id => (n, id) ∈ live log ∧ log.getLast? = some (.probed n id (some true))
  | .closed n id => (n, id) ∈ live log

inductive Orderly : List SessionEvent → Prop where
  | nil : Orderly []
  | snoc {log : List SessionEvent} {e : SessionEvent} :
      Orderly log → InOrder log e → Orderly (log ++ [e])

theorem live_snoc (log : List SessionEvent) (e : SessionEvent) :
    live (log ++ [e]) = liveStep (live log) e := by
  simp [live, List.foldl_append]

theorem makings_append (a b : List SessionEvent) : makings (a ++ b) = makings a ++ makings b :=
  List.filterMap_append

theorem closings_append (a b : List SessionEvent) : closings (a ++ b) = closings a ++ closings b :=
  List.filterMap_append

theorem orderly_of_append {a b : List SessionEvent} (h : Orderly (a ++ b)) : Orderly a := by
  induction b using List.reverseRecOn with
  | nil => simpa using h
  | append_singleton b e ih =>
    rw [← List.append_assoc] at h
    generalize hl : a ++ b ++ [e] = l at h
    cases h with
    | nil => simp at hl
    | snoc h' _ =>
      obtain ⟨hab, -⟩ := List.append_inj' hl rfl
      exact ih (hab ▸ h')

theorem inOrder_of_append {log rest : List SessionEvent} {e : SessionEvent}
    (h : Orderly (log ++ e :: rest)) : InOrder log e := by
  have h1 : Orderly (log ++ [e]) := by
    rw [← List.singleton_append, ← List.append_assoc] at h
    exact orderly_of_append h
  generalize hl : log ++ [e] = l at h1
  cases h1 with
  | nil => simp at hl
  | snoc _ h' =>
    obtain ⟨rfl, he⟩ := List.append_inj' hl rfl
    rw [List.singleton_inj] at he
    exact he ▸ h'

/-- Every session that was made is closed or alive, and none is both. -/
theorem makings_eq {log : List SessionEvent} (h : Orderly log) :
    (makings log : Multiset Key) = closings log + live log := by
  induction h with
  | nil => rfl
  | @snoc log e _ he ih =>
    rw [makings_append, closings_append, live_snoc]
    cases e with
    | made n id =>
      rw [show makings [.made n id] = [(n, id)] from rfl, show closings [.made n id] = [] from rfl]
      rw [List.append_nil, liveStep, ← Multiset.coe_add, ← Multiset.coe_add, ih, Multiset.add_assoc]
    | closed n id =>
      have hl : (n, id) ∈ live log := he
      rw [show makings [.closed n id] = [] from rfl,
        show closings [.closed n id] = [(n, id)] from rfl]
      rw [List.append_nil, liveStep, ih, Multiset.coe_add, Multiset.coe_add, Multiset.coe_eq_coe,
        List.append_assoc]
      exact (List.perm_cons_erase hl).append_left (closings log)
    | notMade id => simpa [makings, closings, liveStep] using ih
    | probed n id alive => simpa [makings, closings, liveStep] using ih
    | handled n id => simpa [makings, closings, liveStep] using ih

theorem makings_nodup {log : List SessionEvent} (h : Orderly log) :
    ((makings log).map Prod.fst).Nodup := by
  induction h with
  | nil => exact List.nodup_nil
  | @snoc log e _ he ih =>
    rw [makings_append, List.map_append]
    cases e with
    | made n id =>
      obtain ⟨-, hn⟩ := he
      rw [List.nodup_append]
      refine ⟨ih, List.nodup_singleton n, fun a ha b hb hab => hn ?_⟩
      obtain rfl := List.mem_singleton.mp hb
      exact hab ▸ ha
    | _ => simpa [makings] using ih

/-- No session is closed twice. -/
theorem closings_nodup {log : List SessionEvent} (h : Orderly log) :
    ((closings log).map Prod.fst).Nodup := by
  have hm := congrArg (Multiset.map Prod.fst) (makings_eq h)
  rw [Multiset.map_add] at hm
  have hn : (Multiset.map Prod.fst (makings log : Multiset Key)).Nodup := makings_nodup h
  rw [hm, Multiset.nodup_add] at hn
  exact hn.1

theorem not_mem_closings {log : List SessionEvent} (h : Orderly log) {k : Key}
    (hk : k ∈ live log) : k ∉ closings log := by
  have hn : (makings log : Multiset Key).Nodup := (makings_nodup h).of_map
  rw [makings_eq h, Multiset.nodup_add] at hn
  exact fun hc => Multiset.disjoint_left.mp hn.2.2 hc hk

/-- At any point at most one session of a proxy is alive. -/
theorem liveIds_nodup {log : List SessionEvent} (h : Orderly log) : (liveIds log).Nodup := by
  induction h with
  | nil => exact List.nodup_nil
  | @snoc log e _ he ih =>
    rw [liveIds, live_snoc]
    cases e with
    | made n id =>
      obtain ⟨hid, -⟩ := he
      rw [liveStep, List.map_append, List.nodup_append]
      refine ⟨ih, List.nodup_singleton id, fun a ha b hb hab => hid ?_⟩
      obtain rfl := List.mem_singleton.mp hb
      exact hab ▸ ha
    | closed n id => exact ih.sublist (List.erase_sublist.map Prod.snd)
    | notMade id => exact ih
    | probed n id alive => exact ih
    | handled n id => exact ih

theorem mem_closings_iff {log : List SessionEvent} {n : Nat} {id : ProxyId} :
    (n, id) ∈ closings log ↔ SessionEvent.closed n id ∈ log := by
  simp only [closings, List.mem_filterMap]
  constructor
  · rintro ⟨e, he, hk⟩
    cases e with
    | closed m i => cases hk; exact he
    | _ => cases hk
  · intro he
    exact ⟨_, he, rfl⟩

end Intercept.SessionLog
