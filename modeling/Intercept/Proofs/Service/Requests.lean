import Intercept.Proofs.Service.Base
import Intercept.Proofs.Url.Query

/-!
What requests to the control plane say. Each of them goes to its endpoint behind the path of the
base, and its query is read as what was asked and as nothing else, whatever keys are made of and
whatever query the base had. The own key is not in a request about some other key.
-/

namespace Intercept

open Url

/-- A request to one endpoint of a service, with these names and values and no others. The service
itself is where the base says. -/
structure Request.Says (r : Request) (base : Url) (method name : String)
    (pairs : List (String × String)) (body : Option String) : Prop where
  method : r.method = method
  place : { r.url with path := base.path, query := base.query } = base
  path : r.url.path = trimSlashes base.path ++ ("/api/1/" ++ name).toList
  query : ∃ q, r.url.query = some q ∧ Form.decode q = pairs
  body : r.body = body

namespace ServiceClient

def endpoints : List String := ["status", "proxies", "inject", "newkey", "keyinfo"]

theorem settled_endpoint {name : String} (h : name ∈ endpoints) :
    ("/api/1/" ++ name).toList = written ["api".toList, "1".toList, name.toList] ∧
      ∀ s ∈ ["api".toList, "1".toList, name.toList], Settled s := by
  have hname : Settled name.toList := by
    simp only [endpoints, List.mem_cons, List.not_mem_nil, or_false] at h
    rcases h with rfl | rfl | rfl | rfl | rfl <;>
      exact settled_of_all (by decide) (by decide) (by decide)
  refine ⟨by simp [written, String.toList_append], ?_⟩
  simp only [List.mem_cons, List.not_mem_nil, or_false, forall_eq_or_imp, forall_eq]
  exact ⟨settled_of_all (by decide) (by decide) (by decide),
    settled_of_all (by decide) (by decide) (by decide), hname⟩

theorem says_endpoint {client : ServiceClient} (h : client.base.Proper) {name : String}
    (hname : name ∈ endpoints) (method : String) (pairs : List (String × String))
    (body : Option String) :
    Request.Says ⟨method, client.endpoint name pairs, body⟩ client.base method name pairs body where
  method := rfl
  place := by
    obtain ⟨⟨_, _, _, _, _, _, _, _⟩, _⟩ := client
    rfl
  path := by
    obtain ⟨hwritten, hsettled⟩ := settled_endpoint hname
    exact extend_path h hwritten (by simp) hsettled
  query := ⟨_, rfl, Form.decode_pairs pairs⟩
  body := rfl

/-- The base that requests go to is the one of the settings, read and moved to its scheme. -/
theorem base_ofConfig {c : Config} {client : ServiceClient} (h : ofConfig c = .ok client) :
    client.key = c.key ∧ ∃ u, Address.ofText c.base = .ok (.web u) ∧
      client.base = { u with scheme := choose .http .https u.scheme.isSecure } := by
  obtain ⟨base, hbase, hclient⟩ := Json.ok_of_bind h
  cases hclient
  refine ⟨rfl, ?_⟩
  by_cases hread : ∃ u, Address.ofText c.base = .ok (.web u)
  · obtain ⟨u, hu⟩ := hread
    rw [ofBase_web hu requests] at hbase
    exact ⟨u, hu, (Except.ok.inj hbase).symm⟩
  · obtain ⟨misuse, -, hrefused⟩ := ofBase_refused (not_exists.1 hread)
    rw [hrefused] at hbase
    cases hbase

theorem inject_asked {client : ServiceClient} (h : client.base.Proper) (r : InjectRequest) :
    if r.toClient || r.toServer then
      ∃ request, client.inject r = .ok request ∧
        request.Says client.base "POST" "inject" [("key", client.key)]
          (some (InjectRequest.record.encode r))
    else client.inject r = .error (.argument .noDirection) := by
  obtain ⟨id, data, toClient, toServer⟩ := r
  have hsaid := says_endpoint h (by decide : "inject" ∈ endpoints) "POST" [client.ownKey]
  cases toClient <;> cases toServer
  · rfl
  all_goals exact ⟨_, rfl, hsaid _⟩

/-- For every base that is accepted and every key of a client: each call is one request behind the
path of the base, and says what was asked for under the client's own key, or under a foreign key
alone if it is about that key. Two clients on one base ask about a foreign key in the same way.
Injecting in no direction is no request at all. -/
theorem requests_say (c : Config) (client : ServiceClient) (h : ofConfig c = .ok client) :
    (∃ u, Address.ofText c.base = .ok (.web u) ∧
      client.base = { u with scheme := choose .http .https u.scheme.isSecure }) ∧
    client.status.Says client.base "GET" "status" [("key", c.key)] none ∧
    client.listProxies.Says client.base "GET" "proxies" [("key", c.key)] none ∧
    (∀ permissions, (client.newKey permissions).Says client.base "GET" "newkey"
      [("perms", toString permissions.bits.toNat), ("key", c.key)] none) ∧
    (client.keyInfo none).Says client.base "GET" "keyinfo" [("key", c.key)] none ∧
    (∀ key, (client.keyInfo (some key)).Says client.base "GET" "keyinfo" [("key", key)] none) ∧
    (∀ r : InjectRequest, if r.toClient || r.toServer then
        ∃ request, client.inject r = .ok request ∧
          request.Says client.base "POST" "inject" [("key", c.key)]
            (some (InjectRequest.record.encode r))
      else client.inject r = .error (.argument .noDirection)) ∧
    ∀ c' client', ofConfig c' = .ok client' → c'.base = c.base →
      ∀ key, client'.keyInfo (some key) = client.keyInfo (some key) := by
  obtain ⟨hkey, u, hread, hbase⟩ := base_ofConfig h
  obtain ⟨-, hu⟩ := ofText_web hread
  have hproper : client.base.Proper := hbase ▸ moved_proper hu requests
  have hsaid {name : String} (hname : name ∈ endpoints) (pairs : List (String × String)) :
      (get (client.endpoint name pairs)).Says client.base "GET" name pairs none :=
    says_endpoint hproper hname "GET" pairs none
  rw [← hkey]
  refine ⟨⟨u, hread, hbase⟩, hsaid (by decide) _, hsaid (by decide) _,
    fun permissions => hsaid (by decide) _, hsaid (by decide) _, fun key => hsaid (by decide) _,
    inject_asked hproper, fun c' client' h' hsame key => ?_⟩
  obtain ⟨-, u', hread', hbase'⟩ := base_ofConfig h'
  rw [hsame, hread] at hread'
  cases hread'
  have hbases : client'.base = client.base := hbase'.trans hbase.symm
  simp only [keyInfo, endpoint, hbases]

/-- A foreign key that looks like a query, asked about through a base that has one. -/
theorem requests_say_bracketed :
    ∃ client, ofConfig bracketed = .ok client ∧
      (client.keyInfo (some "a&key=k#%41+")).Says client.base "GET" "keyinfo"
        [("key", "a&key=k#%41+")] none ∧
      ∀ client', ofConfig { bracketed with key := "other" } = .ok client' →
        client'.keyInfo (some "a&key=k#%41+") = client.keyInfo (some "a&key=k#%41+") := by
  obtain ⟨-, -, -, -, -, hforeign, -, hsame⟩ := requests_say bracketed _ bracketed_read
  exact ⟨_, bracketed_read, hforeign _, fun client' h => hsame _ client' h rfl _⟩

end ServiceClient

end Intercept
