import Intercept.Proofs.Url.Address
import Intercept.Proofs.Url.Overlong
import Intercept.Service.Client

/-!
One address for requests and for the socket. Both are read from the same text and moved to a scheme
of the same security, which takes no port along that the other one would keep; so they differ in
scheme, path and query only.
-/

namespace Intercept

namespace Url

/-! ### Moving to another scheme -/

/-- One scheme without security and one with it, for the same kind of traffic. -/
structure Pair (plain secure : Scheme) : Prop where
  plain : plain.isSecure = false
  secure : secure.isSecure = true

theorem requests : Pair .http .https := ⟨rfl, rfl⟩

theorem sockets : Pair .ws .wss := ⟨rfl, rfl⟩

def choose (plain secure : Scheme) (isSecure : Bool) : Scheme := if isSecure then secure else plain

theorem choose_https (s : Scheme) : choose .http .https s.isSecure = .https ↔
    some s.text = some "https" ∨ some s.text = some "wss" := by
  cases s <;> decide

theorem choose_requests (s : Scheme) :
    choose .http .https s.isSecure = .http ∨ choose .http .https s.isSecure = .https := by
  cases s <;> decide

theorem defaultPort_choose {plain secure : Scheme} (h : Pair plain secure) (s : Scheme) :
    (choose plain secure s.isSecure).defaultPort = s.defaultPort := by
  rw [choose]
  cases hs : s.isSecure with
  | true => simp [Scheme.defaultPort, hs, h.secure]
  | false => simp [Scheme.defaultPort, hs, h.plain]

theorem setScheme?_proper {u : Url} (h : u.Proper) {s : Scheme}
    (hs : s.defaultPort = u.scheme.defaultPort) : u.setScheme? s = some { u with scheme := s } := by
  have hhost : u.host ≠ .domain [] := fun he => Host.chars_ne_nil h.host (by rw [he]; rfl)
  have hport : u.port.filter (· ≠ s.defaultPort) = u.port := by
    cases hp : u.port with
    | none => rfl
    | some n => simp [Option.filter, hs, (h.port n hp).2]
  rw [setScheme?, if_neg hhost, hport]

theorem moved_proper {u : Url} (h : u.Proper) {plain secure : Scheme} (hp : Pair plain secure) :
    Proper { u with scheme := choose plain secure u.scheme.isSecure } :=
  { h with port := fun n hn => (defaultPort_choose hp u.scheme).symm ▸ h.port n hn }

/-- A base that is read is moved, whatever it is. -/
theorem ofBase_web {base : String} {u : Url} (hread : Address.ofText base = .ok (.web u))
    {plain secure : Scheme} (h : Pair plain secure) :
    ofBase base plain secure = .ok { u with scheme := choose plain secure u.scheme.isSecure } := by
  obtain ⟨-, hproper⟩ := ofText_web hread
  have hmoved := setScheme?_proper hproper (defaultPort_choose h u.scheme)
  rw [ofBase, hread]
  by_cases hsame : u.scheme = choose plain secure u.scheme.isSecure
  · rw [← hsame]
    exact if_pos hsame
  · rw [choose] at hsame hmoved ⊢
    simp only [if_neg hsame, hmoved]

/-- A base that is not read is refused for the same reason, whatever it was wanted for. -/
theorem ofBase_refused {base : String} (hread : ∀ u, Address.ofText base ≠ .ok (.web u)) :
    ∃ misuse, (∀ text target, misuse ≠ .noConversion text target) ∧
      ∀ plain secure, ofBase base plain secure = .error (.argument misuse) := by
  cases hbase : Address.ofText base with
  | error fault =>
    refine ⟨.badBase base fault, by simp, fun plain secure => ?_⟩
    rw [ofBase, hbase]
  | ok address =>
    cases address with
    | web u => exact absurd hbase (hread u)
    | other scheme =>
      refine ⟨.scheme scheme, by simp, fun plain secure => ?_⟩
      rw [ofBase, hbase]

/-! ### More path -/

/-- Segments without dots are put behind a path as they are. -/
theorem extend_path {u : Url} (h : u.Proper) {more : String} {segments : List (List Char)}
    (hmore : more.toList = written segments) (hne : segments ≠ [])
    (hsettled : ∀ s ∈ segments, Settled s) :
    (u.extend more).path = trimSlashes u.path ++ more.toList := by
  obtain ⟨cs, hcs⟩ := h.path
  have htrim : trimSlashes u.path = (u.path.reverse.dropWhile (· == '/')).reverse := rfl
  rw [extend, withPath]
  simp only
  rw [← htrim, hcs, hmore, pathOfText_trim_append cs hne hsettled]

theorem settled_of_all {segment : List Char}
    (h : (segment.all fun c =>
      c.toNat < 128 && !refusedInPath c && c != '/' && c != '\\') = true)
    (hup : isUp segment = false) (hhere : isHere segment = false) : Settled segment := by
  have hall (c : Char) (hc : c ∈ segment) :
      ((c.toNat < 128 ∧ refusedInPath c = false) ∧ c ≠ '/') ∧ c ≠ '\\' := by
    simpa using List.all_eq_true.1 h c hc
  exact ⟨fun c hc => ⟨(hall c hc).1.1.1, (hall c hc).1.1.2⟩, fun hc => (hall _ hc).1.2 rfl,
    fun hc => (hall _ hc).2 rfl, hup, hhere⟩

/-- What the address of a socket has in common with the address that requests go to. -/
structure Twins (base uri : Url) : Prop where
  user : uri.user = base.user
  password : uri.password = base.password
  host : uri.host = base.host
  port : uri.effectivePort = base.effectivePort
  secure : uri.scheme = .wss ↔ base.scheme = .https
  plain : uri.scheme = .ws ↔ base.scheme = .http
  path : uri.path = trimSlashes base.path ++ socketPath.toList

end Url

open Url

theorem socketPath_written :
    socketPath.toList = written ["api".toList, "2".toList, "socket".toList] :=
  rfl

theorem settled_socketPath : ∀ s ∈ ["api".toList, "2".toList, "socket".toList], Settled s := by
  simp only [List.mem_cons, List.not_mem_nil, or_false, forall_eq_or_imp, forall_eq]
  exact ⟨settled_of_all (by decide) (by decide) (by decide),
    settled_of_all (by decide) (by decide) (by decide),
    settled_of_all (by decide) (by decide) (by decide)⟩

/-- The address of a socket, for a base that is read. -/
theorem socketUri_web {base : String} (key : String) {caps : Capabilities}
    (hcaps : caps.check = .ok ()) {u : Url} (hread : Address.ofText base = .ok (.web u)) :
    socketUri base key caps =
      .ok (({ u with scheme := choose .ws .wss u.scheme.isSecure }.extend socketPath).withQuery
        (caps.query key)) := by
  rw [socketUri, hcaps, ofBase_web hread sockets]
  rfl

theorem twins {u : Url} (h : u.Proper) (query : List Char) :
    Twins { u with scheme := choose .http .https u.scheme.isSecure }
      (({ u with scheme := choose .ws .wss u.scheme.isSecure }.extend socketPath).withQuery
        query) where
  user := rfl
  password := rfl
  host := rfl
  port := by
    have hhttp := defaultPort_choose requests u.scheme
    have hws := defaultPort_choose sockets u.scheme
    simp only [effectivePort, withQuery, extend, withPath, hhttp, hws]
  secure := by
    simp only [withQuery, extend, withPath]
    cases u.scheme <;> decide
  plain := by
    simp only [withQuery, extend, withPath]
    cases u.scheme <;> decide
  path := extend_path (moved_proper h sockets) socketPath_written (by simp) settled_socketPath

/-- What was moved for requests is moved again to where it is, if it is read. -/
theorem ofBase_again {u : Url} (h : u.Proper) (hscheme : u.scheme = .http ∨ u.scheme = .https) :
    ofBase u.text .http .https =
      if u.host.isOverlong then .error (.argument (.badBase u.text .domain)) else .ok u := by
  have hread := ofText_text h
  cases hlong : u.host.isOverlong with
  | true =>
    rw [hlong, if_pos rfl] at hread
    rw [ofBase, hread, if_pos rfl]
  | false =>
    rw [hlong, if_neg (by simp)] at hread
    have hsame : choose .http .https u.scheme.isSecure = u.scheme := by
      rcases hscheme with hs | hs <;> rw [hs] <;> rfl
    rw [ofBase_web hread requests, hsame, if_neg (by simp)]

/-- For every base, key and admissible set of capabilities: requests and the socket accept the same
bases and refuse the others with one error, which is never about a conversion. Where they accept,
they have the same user, host and port, the same security as the scheme that was given, and the path
of the socket is that of the requests without the slashes at its end and with its own path behind.
An address for requests that is read again is what it was, unless its host has a code that is too
long to be read. -/
theorem one_address (c : Config) (key : String) (caps : Capabilities)
    (hcaps : caps.check = .ok ()) :
    (∀ f, ServiceClient.ofConfig c = .error f ↔ socketUri c.base key caps = .error f) ∧
      (∀ f, ServiceClient.ofConfig c = .error f →
        ∃ misuse, f = .argument misuse ∧ ∀ text target, misuse ≠ .noConversion text target) ∧
      ∀ client, ServiceClient.ofConfig c = .ok client →
        (∃ uri, socketUri c.base key caps = .ok uri ∧ Twins client.base uri) ∧
          (client.base.scheme = .https ↔
            givenScheme c.base = some "https" ∨ givenScheme c.base = some "wss") ∧
          ofBase client.base.text .http .https =
            if client.base.host.isOverlong then
              .error (.argument (.badBase client.base.text .domain))
            else .ok client.base := by
  by_cases hread : ∃ u, Address.ofText c.base = .ok (.web u)
  · obtain ⟨u, hread⟩ := hread
    obtain ⟨hgiven, hproper⟩ := ofText_web hread
    have hsocket := socketUri_web key hcaps hread
    have hclient : ServiceClient.ofConfig c =
        .ok ⟨{ u with scheme := choose .http .https u.scheme.isSecure }, c.key⟩ := by
      rw [ServiceClient.ofConfig, ofBase_web hread requests]
      rfl
    rw [hsocket, hclient]
    refine ⟨by simp, by simp, fun client h => ?_⟩
    cases h
    refine ⟨⟨_, rfl, twins hproper _⟩, ?_, ?_⟩
    · rw [hgiven]
      exact choose_https u.scheme
    · exact ofBase_again (moved_proper hproper requests) (choose_requests u.scheme)
  · obtain ⟨misuse, hconversion, hrefused⟩ := ofBase_refused (not_exists.1 hread)
    have hsocket : socketUri c.base key caps = .error (.argument misuse) := by
      rw [socketUri, hcaps, hrefused]
      rfl
    have hclient : ServiceClient.ofConfig c = .error (.argument misuse) := by
      rw [ServiceClient.ofConfig, hrefused]
      rfl
    rw [hsocket, hclient]
    refine ⟨by simp, fun f h => ?_, fun client h => by cases h⟩
    cases h
    exact ⟨misuse, rfl, hconversion⟩

/-- A base with user, brackets, a port that another scheme implies, and slashes. -/
def bracketed : Config := { base := "WSS://me:it@[1::2]:80/a b//?q#f", key := "k" }

theorem bracketed_read : ServiceClient.ofConfig bracketed =
    .ok ⟨⟨.https, "me".toList, some "it".toList, .ipv6 [1, 0, 0, 0, 0, 0, 0, 2], some 80,
      "/a%20b//".toList, some ['q'], some ['f']⟩, "k"⟩ := by
  rfl

theorem one_address_bracketed :
    Capabilities.check { filter := true } = .ok () ∧
      ∃ client, ServiceClient.ofConfig bracketed = .ok client ∧
        (∃ uri, socketUri bracketed.base "key" { filter := true } = .ok uri ∧
          Twins client.base uri) ∧
          ofBase client.base.text .http .https = .ok client.base := by
  obtain ⟨-, -, haccepted⟩ := one_address bracketed "key" { filter := true } rfl
  obtain ⟨huri, -, hagain⟩ := haccepted _ bracketed_read
  exact ⟨rfl, _, bracketed_read, huri, hagain⟩

/-! ### A host that is not read again -/

/-- An address of nothing but a host. -/
theorem ofText_bare {name : List Char} (hne : name ≠ [])
    (h : ∀ c ∈ name, Inner c ∧ c ≠ '@' ∧ c ≠ ':' ∧ c ≠ '[') {host : Url.Host}
    (hhost : Url.Host.ofText name = .ok host) :
    Address.ofText (String.ofList ("http://".toList ++ (name ++ ['/']))) =
      .ok (.web ⟨.http, [], none, host, none, ['/'], none, none⟩) := by
  have htext : "http://".toList ++ (name ++ ['/']) =
      Scheme.http.text.toList ++ ':' :: '/' :: '/' :: (name ++ ['/']) := rfl
  have hvisible : ∀ c ∈ "http://".toList ++ (name ++ ['/']), Visible c := by
    intro c hc
    simp only [List.mem_append] at hc
    rcases hc with hc | hc | hc
    · exact visible_of_all rfl c hc
    · exact (h c hc).1.visible
    · rw [List.mem_singleton.1 hc, Visible]
      decide
  have hslashes :
      ('/' :: '/' :: (name ++ ['/'])).dropWhile (isSlash (.web .http)) = name ++ ['/'] := by
    obtain ⟨c, cs, rfl⟩ := List.exists_cons_of_ne_nil hne
    have hc := (h c List.mem_cons_self).1
    rw [List.dropWhile_cons_of_pos rfl, List.dropWhile_cons_of_pos rfl, List.cons_append,
      List.dropWhile_cons_of_neg]
    simp [isSlash, hc.slash, hc.backslash]
  have huser : takeUser (.web .http) (name ++ ['/']) = .ok ({}, name ++ ['/']) := by
    refine takeUser_place _ (fun c hc => ?_) fun hat => (h _ hat).2.1 rfl
    rw [(h c hc).1.stays]
    rfl
  have hname : hostChars (.web .http) false (name ++ ['/']) = name :=
    hostChars_append _ (fun c hc => ⟨(h c hc).1, (h c hc).2.2⟩) rfl
  have hempty : name.isEmpty = false := by simpa using hne
  rw [Address.ofText, String.toList_ofList, tidy_visible hvisible, htext, scheme?_text]
  simp only [ofScheme_text, hslashes]
  rw [ofAuthority, huser, Json.ok_bind]
  simp only [hname, readHost_web .http hne, hhost, Json.map_ok, Json.ok_bind, List.drop_left,
    hempty]
  rfl

def distant : List Char := (List.range 700).map fun i => Char.ofNat (0x20000 + 60 * i)

theorem points_distant : distant.map Char.toNat = (List.range 700).map (0x20000 + 60 * ·) := by
  rw [distant, List.map_map]
  refine List.map_congr_left fun i hi => Text.toNat_ofNat ?_
  rw [List.mem_range] at hi
  simp only [Nat.isValidChar]
  omega

theorem ideograph_distant : ∀ c ∈ distant, Domain.Ideograph c := by
  intro c hc
  have hpoint := List.mem_map_of_mem (f := Char.toNat) hc
  rw [points_distant] at hpoint
  obtain ⟨i, hi, hn⟩ := List.mem_map.1 hpoint
  rw [List.mem_range] at hi
  rw [Domain.Ideograph, ← hn]
  omega

theorem overlong_distant :
    (Host.domain (Domain.mark ++ Punycode.encode distant)).isOverlong = true := by
  have hlen : distant.length = 700 := by simp [distant]
  refine Host.overlong_ideographs (by omega) ideograph_distant ?_ ?_
  · rw [points_distant]
    refine List.Nodup.map (fun i j h => ?_) List.nodup_range
    have h : 0x20000 + 60 * i = 0x20000 + 60 * j := h
    omega
  · rw [points_distant]
    simp only [List.mem_map, List.mem_range]
    rintro _ ⟨i, -, rfl⟩ _ ⟨j, -, rfl⟩ hlt
    omega

def distantBase : Config :=
  { base := String.ofList ("http://".toList ++ (distant ++ ['/'])), key := "k" }

def distantUrl : Url :=
  ⟨.http, [], none, .domain (Domain.mark ++ Punycode.encode distant), none, ['/'], none, none⟩

theorem distant_read : Address.ofText distantBase.base = .ok (.web distantUrl) := by
  have hlen : distant.length = 700 := by simp [distant]
  have hne : distant ≠ [] := fun he => by simp [he] at hlen
  have hother {c d : Char} (hc : c ∈ distant) (hd : d.toNat < 0x20000) : c ≠ d := fun he =>
    Domain.notMem_ideographs ideograph_distant hd (he ▸ hc)
  have hhost := Url.Host.ofText_ideographs hne (by rw [hlen]; decide) ideograph_distant
  refine ofText_bare hne (fun c hc => ⟨⟨?_, ?_, ?_, ?_, ?_⟩, ?_, ?_, ?_⟩) hhost
  · have hlo := (ideograph_distant c hc).1
    rw [Visible]
    omega
  all_goals exact hother hc (by decide)

/-- An address for requests need not be read again: the name in it may be longer in ASCII than the
names that are read. -/
theorem distant_refused_again :
    ∃ client, ServiceClient.ofConfig distantBase = .ok client ∧
      ofBase client.base.text .http .https ≠ .ok client.base := by
  obtain ⟨-, hproper⟩ := ofText_web distant_read
  have hclient : ServiceClient.ofConfig distantBase = .ok ⟨distantUrl, "k"⟩ := by
    rw [ServiceClient.ofConfig, ofBase_web distant_read requests]
    rfl
  have hagain := ofBase_again hproper (.inl rfl)
  have hlong : distantUrl.host.isOverlong = true := overlong_distant
  refine ⟨_, hclient, ?_⟩
  rw [hagain, hlong, if_pos rfl]
  simp

end Intercept
