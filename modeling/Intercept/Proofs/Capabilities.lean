import Intercept.Proofs.Service.Base
import Intercept.Proofs.Url.Query

/-!
What the address of a socket asks for. Its query says the key and the capabilities, whatever the key
is made of and whatever query the base had; so the address tells which key and which capabilities it
was made from, as far as these have an effect.
-/

namespace Intercept

open Url

namespace Capabilities

/-- What is asked for, by name, the key apart. A name alone has no value. -/
def wishes (caps : Capabilities) : List (String × String) :=
  (if caps.filter then
      ("filter", "") :: (caps.defaultAction.map fun action => ("default", action.name)).toList
    else []) ++
  (if caps.inject then [("inject", "")] else []) ++
  (if caps.close then [("close", "")] else []) ++
  (caps.network.map fun network => ("network", network)).toList

/-- The capabilities without a default action that nobody will use. -/
def effective (caps : Capabilities) : Capabilities :=
  { caps with defaultAction := if caps.filter then caps.defaultAction else none }

/-! ### The words of a query -/

theorem network_of_check {caps : Capabilities} (h : caps.check = .ok ()) :
    ∀ n ∈ caps.network, n = "tcp" ∨ n = "udp" := by
  intro n hn
  rw [check, Option.mem_def.1 hn] at h
  dsimp only at h
  split at h
  next hknown => exact hknown
  next => cases h

def Plain (word : List Char) : Prop :=
  word ≠ [] ∧ '&' ∉ word ∧ ∀ c ∈ word, Admitted refusedInQuery c

theorem plain_of_all {word : List Char} (hne : word ≠ [])
    (h : (word.all fun c => c.toNat < 128 && !refusedInQuery c && c != '&') = true) :
    Plain word := by
  have hall (c : Char) (hc : c ∈ word) :
      (c.toNat < 128 ∧ refusedInQuery c = false) ∧ c ≠ '&' := by
    simpa using List.all_eq_true.1 h c hc
  exact ⟨hne, fun hc => (hall _ hc).2 rfl, fun c hc => ⟨(hall c hc).1.1, (hall c hc).1.2⟩⟩

theorem plain_words {caps : Capabilities} (h : caps.check = .ok ()) :
    ∀ word ∈ caps.words, Plain word := by
  intro word hword
  simp only [words, List.mem_append] at hword
  rcases hword with ((hword | hword) | hword) | hword
  · split at hword
    · rcases List.mem_cons.1 hword with rfl | hword
      · exact plain_of_all (by decide) (by decide)
      · split at hword
        next action _ =>
          rw [List.mem_singleton.1 hword]
          cases action <;> exact plain_of_all (by decide) (by decide)
        next => cases hword
    · cases hword
  · split at hword
    · rw [List.mem_singleton.1 hword]
      exact plain_of_all (by decide) (by decide)
    · cases hword
  · split at hword
    · rw [List.mem_singleton.1 hword]
      exact plain_of_all (by decide) (by decide)
    · cases hword
  · split at hword
    next n hn =>
      rw [List.mem_singleton.1 hword]
      rcases network_of_check h n hn with rfl | rfl <;> exact plain_of_all (by decide) (by decide)
    next => cases hword

theorem decode_words {caps : Capabilities} (h : caps.check = .ok ()) :
    caps.words.map Form.decodePair = caps.wishes := by
  have hnetwork := network_of_check h
  obtain ⟨filter, inject, close, action, network⟩ := caps
  simp only [words, wishes, List.map_append]
  congr 1
  · congr 1
    · congr 1
      · cases filter with
        | false => rfl
        | true =>
          cases action with
          | none => rfl
          | some action => cases action <;> rfl
      · cases inject <;> rfl
    · cases close <;> rfl
  · cases network with
    | none => rfl
    | some n => rcases hnetwork n rfl with rfl | rfl <;> rfl

/-- The whole query is read as the key and what is asked for. -/
theorem decode_query {caps : Capabilities} (h : caps.check = .ok ()) (key : String) :
    Form.decode (caps.query key) = ("key", key) :: caps.wishes := by
  have hparts : ∀ p ∈ Form.pair "key" key :: caps.words, p ≠ [] ∧ '&' ∉ p :=
    List.forall_mem_cons.2 ⟨⟨Form.pair_ne_nil _ _, Form.and_notMem_pair _ _⟩,
      fun word hword => ⟨(plain_words h word hword).1, (plain_words h word hword).2.1⟩⟩
  rw [query, Form.decode_join hparts, List.map_cons, Form.decodePair_pair, decode_words h]

/-- An address has nothing to write in another way in a query of a key and capabilities. -/
theorem encodePart_query {caps : Capabilities} (h : caps.check = .ok ()) (key : String) :
    encodePart refusedInQuery (caps.query key) = caps.query key := by
  have hparts : ∀ p ∈ Form.pair "key" key :: caps.words, ∀ c ∈ p, Admitted refusedInQuery c :=
    List.forall_mem_cons.2 ⟨fun _ => Form.admitted_pair,
      fun word hword => (plain_words h word hword).2.2⟩
  exact encodePart_of_admitted fun _ => Form.admitted_join hparts

/-! ### What has an effect -/

theorem words_effective (caps : Capabilities) : caps.effective.words = caps.words := by
  obtain ⟨filter, inject, close, action, network⟩ := caps
  cases filter <;> rfl

def ofWishes (wishes : List (String × String)) : Capabilities where
  filter := (wishes.lookup "filter").isSome
  inject := (wishes.lookup "inject").isSome
  close := (wishes.lookup "close").isSome
  defaultAction := (wishes.lookup "default").bind fun name =>
    [DefaultAction.drop, .allow].find? (·.name == name)
  network := wishes.lookup "network"

theorem ofWishes_wishes (caps : Capabilities) : ofWishes caps.wishes = caps.effective := by
  obtain ⟨filter, inject, close, action, network⟩ := caps
  cases filter <;> cases inject <;> cases close <;> cases network <;>
    rcases action with _ | _ | _ <;> rfl

/-! ### Addresses -/

/-- Only an address of a web service is accepted as a base. -/
theorem web_of_socketUri {base key : String} {caps : Capabilities} {uri : Url}
    (h : socketUri base key caps = .ok uri) :
    caps.check = .ok () ∧ ∃ u, Address.ofText base = .ok (.web u) := by
  obtain ⟨⟨⟩, hcheck, h⟩ := Json.ok_of_bind h
  refine ⟨hcheck, ?_⟩
  by_contra hread
  obtain ⟨misuse, -, hrefused⟩ := ofBase_refused (not_exists.1 hread)
  rw [hrefused] at h
  cases h

/-- The address of a socket, with the query as it was put together. -/
theorem socketUri_query {base : String} {u : Url} (hread : Address.ofText base = .ok (.web u))
    {caps : Capabilities} (h : caps.check = .ok ()) (key : String) :
    socketUri base key caps =
      .ok { { u with scheme := choose .ws .wss u.scheme.isSecure }.extend socketPath with
        query := some (caps.query key) } := by
  rw [socketUri_web key h hread, withQuery, encodePart_query h]

/-- Addresses that differ in their queries alone are written differently. -/
theorem query_of_text (u : Url) {q q' : List Char}
    (h : text { u with query := some q } = text { u with query := some q' }) : q = q' := by
  have hchars := String.ofList_injective h
  simp only [chars] at hchars
  exact (List.cons.inj (List.append_cancel_left (List.append_cancel_right hchars))).2

theorem query_inj {caps caps' : Capabilities} (h : caps.check = .ok ()) (h' : caps'.check = .ok ())
    {key key' : String} :
    caps.query key = caps'.query key' ↔ key = key' ∧ caps.effective = caps'.effective := by
  constructor
  · intro hquery
    have hdecoded := congrArg Form.decode hquery
    rw [decode_query h, decode_query h'] at hdecoded
    obtain ⟨hkey, hwishes⟩ := List.cons.inj hdecoded
    refine ⟨(Prod.mk.inj hkey).2, ?_⟩
    rw [← ofWishes_wishes, ← ofWishes_wishes, hwishes]
  · rintro ⟨rfl, heffective⟩
    have hwords : caps.words = caps'.words := by
      rw [← words_effective, heffective, words_effective]
    rw [query, query, hwords]

/-- An accepted base is accepted with any key and any admissible capabilities. The query of the
address is then read as the key and what is asked for, and as nothing else; and two addresses with
this base are written alike only if the keys are the same, and the capabilities as far as they have
an effect. -/
theorem query_means (base key₀ : String) (caps₀ : Capabilities) (uri₀ : Url)
    (h₀ : socketUri base key₀ caps₀ = .ok uri₀) :
    (∀ key caps, caps.check = .ok () → ∃ uri q, socketUri base key caps = .ok uri ∧
      uri.query = some q ∧ Form.decode q = ("key", key) :: caps.wishes) ∧
    ∀ key caps uri key' caps' uri', socketUri base key caps = .ok uri →
      socketUri base key' caps' = .ok uri' →
      (uri.text = uri'.text ↔ key = key' ∧ caps.effective = caps'.effective) := by
  obtain ⟨-, u, hread⟩ := web_of_socketUri h₀
  constructor
  · intro key caps hcaps
    exact ⟨_, _, socketUri_query hread hcaps key, rfl, decode_query hcaps key⟩
  · intro key caps uri key' caps' uri' huri huri'
    obtain ⟨hcaps, -⟩ := web_of_socketUri huri
    obtain ⟨hcaps', -⟩ := web_of_socketUri huri'
    rw [socketUri_query hread hcaps] at huri
    rw [socketUri_query hread hcaps'] at huri'
    cases huri
    cases huri'
    rw [← query_inj hcaps hcaps']
    exact ⟨query_of_text _, fun hquery => by rw [hquery]⟩

/-- A key that looks like a query, behind a base that has one, asks for nothing. -/
theorem query_means_smuggler :
    let base := "https://me@h:80/a//?key=x&close#f"
    let key := "&inject=1#'+% \u00e9"
    let caps : Capabilities :=
      { filter := true, defaultAction := some .drop, network := some "udp" }
    (∃ uri₀, socketUri base "" {} = .ok uri₀) ∧ caps.check = .ok () ∧
      ∃ uri q, socketUri base key caps = .ok uri ∧ uri.query = some q ∧ Form.decode q =
        [("key", key), ("filter", ""), ("default", "drop"), ("network", "udp")] := by
  intro base key caps
  have haccepted : socketUri "https://me@h:80/a//?key=x&close#f" "" {} =
      .ok ⟨.wss, "me".toList, none, .domain ['h'], some 80, "/a/api/2/socket".toList,
        some "key=".toList, some ['f']⟩ := by rfl
  exact ⟨⟨_, haccepted⟩, rfl, (query_means base "" {} _ haccepted).1 key caps rfl⟩

end Capabilities

end Intercept
