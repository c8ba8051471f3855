import Mathlib.Data.List.Chain
import PageAudit.Fetch.Client
/-!
The trail of a fetch. A fetch asks for one address after the other, each because the response for the one
before leads on to it, and ends at the first address whose response does not, or when it may not go
further (`Trail`). `follow_trail` says that every fetch has such a trail, with no more addresses than the
settings allow; so none is asked for a second time because an exchange went wrong.
-/
namespace PageAudit.Fetch

variable {net : Network} {config : Config} {u last target : Url} {response : Response}
  {redirects left : Nat}

/-! ### One exchange -/

/-- The response for an address leads on to another one. -/
def LeadsTo (net : Network) (config : Config) (u target : Url) : Prop :=
  ∃ response, send net config u = .ok response ∧ next? u response = some target ∧ isWeb target = true

theorem LeadsTo.next_ne_none (h : LeadsTo net config u target) (hsend : send net config u = .ok response) :
    next? u response ≠ none := by
  obtain ⟨response', hsend', hnext, -⟩ := h
  obtain rfl := Except.ok.inj (hsend.symm.trans hsend')
  rw [hnext]
  exact Option.some_ne_none target

theorem sent_of_ok (h : send net config u = .ok response) : sent net config u = [request config u] := by
  unfold send at h
  unfold sent
  cases hreply : net.reply (request config u) with
  | unreachable =>
    rw [hreply] at h
    cases h
  | answer bytes ending => rfl

theorem sent_eq (net : Network) (config : Config) (u : Url) :
    sent net config u = [] ∨ sent net config u = [request config u] := by
  unfold sent
  cases net.reply (request config u) with
  | unreachable => exact .inl rfl
  | answer bytes ending => exact .inr rfl

/-- A response that tells of an error leads no further. -/
theorem next?_of_status (u : Url) (h : 400 ≤ response.status.toNat) : next? u response = none := by
  have hstatus : isRedirect response.status = false := by
    refine Bool.eq_false_iff.mpr fun hredirect => ?_
    have hmem := List.contains_iff_mem.mp hredirect
    simp only [List.mem_cons, List.not_mem_nil, or_false] at hmem
    rcases hmem with heq | heq | heq | heq | heq <;> rw [heq] at h <;> exact absurd h (by decide)
  rw [next?, hstatus]
  rfl

/-- An exchange without a response ends because no server is reached or because of a fault. -/
theorem send_error {e : FetchError} (h : send net config u = .error e) :
    e = .connect ("error sending request" ++ forUrl u) ∨ ∃ fault, e = sendError config u fault := by
  unfold send at h
  cases hreply : net.reply (request config u) with
  | unreachable =>
    rw [hreply] at h
    exact .inl (Except.error.inj h).symm
  | answer bytes ending =>
    simp only [hreply] at h
    cases hread : Response.read ending bytes with
    | ok response =>
      rw [hread] at h
      cases h
    | error fault =>
      rw [hread] at h
      exact .inr ⟨fault, (Except.error.inj h).symm⟩

/-- No single exchange has too many redirects. -/
theorem send_ne_redirect (net : Network) (config : Config) (u : Url) (m : String) :
    send net config u ≠ .error (.redirect m) := by
  intro h
  rcases send_error h with heq | ⟨fault, heq⟩
  · cases heq
  · cases fault <;> cases heq

theorem pageOf_ok {body : List UInt8} (h : response.body = .ok body) :
    pageOf net config u response = .ok ⟨u.text, response.status, response.headers,
      (Response.charset response.headers).decode body, net.elapsed⟩ := by
  rw [pageOf, h]

/-- How a fetch ends at an address, with some redirects left. -/
inductive Ends (net : Network) (config : Config) (left : Nat) (u : Url) : Except FetchError Page → Prop
  /-- There is no response. -/
  | unanswered {e : FetchError} : send net config u = .error e → Ends net config left u (.error e)
  /-- The response leads no further, whatever its status is; its body decides. -/
  | answered {response : Response} : send net config u = .ok response → next? u response = none →
      Ends net config left u (pageOf net config u response)
  /-- The response leads further than the settings allow. -/
  | stopped {response : Response} {target : Url} : send net config u = .ok response →
      next? u response = some target → left = 0 →
      Ends net config left u (.error (.redirect ("error following redirect" ++ forUrl u)))
  /-- The response leads to an address that is none of a page. -/
  | astray {response : Response} {target : Url} : send net config u = .ok response →
      next? u response = some target → isWeb target = false → left ≠ 0 →
      Ends net config left u (.error (.request ("builder error" ++ forUrl target)))

/-- Requests that are no more than the settings allow, that only read, under the name that the settings
give, and each of them but the first for the address that the response to the one before leads to. -/
structure Sparing (net : Network) (config : Config) (requests : List Request) : Prop where
  number : requests.length ≤ config.maxRedirects + 1
  verb : ∀ r ∈ requests, r.verb = "GET"
  userAgent : ∀ r ∈ requests, r.userAgent = config.userAgent
  led : requests.IsChain fun r r' => LeadsTo net config r.url r'.url

theorem Sparing.nil : Sparing net config [] :=
  ⟨Nat.zero_le _, List.forall_mem_nil _, List.forall_mem_nil _, .nil⟩

/-! ### Trails -/

/-- The addresses that a fetch goes through: those that lead on, and the last one. -/
structure Trail (net : Network) (config : Config) (redirects : Nat) (u : Url) (o : Outcome)
    (before : List Url) (last : Url) : Prop where
  start : (before ++ [last]).head? = some u
  leads : (before ++ [last]).IsChain (LeadsTo net config)
  length : before.length ≤ redirects
  requests : o.requests = before.map (request config) ++ sent net config last
  ends : Ends net config (redirects - before.length) last o.result

namespace Trail

variable {o : Outcome} {before : List Url}

/-- A fetch that ends where it starts. -/
theorem single (hrequests : o.requests = sent net config u) (h : Ends net config redirects u o.result) :
    Trail net config redirects u o [] u :=
  ⟨rfl, .singleton u, Nat.zero_le _, hrequests, h⟩

theorem cons (hleads : LeadsTo net config u target) (h : Trail net config left target o before last) :
    Trail net config (left + 1) u { o with requests := sent net config u ++ o.requests }
      (u :: before) last where
  start := rfl
  leads := by
    refine List.IsChain.cons h.leads fun v hv => ?_
    obtain rfl : target = v := Option.some.inj (h.start.symm.trans hv)
    exact hleads
  length := Nat.succ_le_succ h.length
  requests := by
    obtain ⟨response, hsend, -⟩ := hleads
    rw [sent_of_ok hsend, h.requests]
    rfl
  ends := by
    rw [List.length_cons, Nat.add_sub_add_right]
    exact h.ends

variable (h : Trail net config redirects u o before last)

include h

/-- Only the last address can be one that no request reaches. -/
theorem requests_eq :
    o.requests = before.map (request config) ∨ o.requests = (before ++ [last]).map (request config) := by
  rw [h.requests, List.map_append, List.map_singleton]
  rcases sent_eq net config last with hsent | hsent <;> rw [hsent]
  · exact .inl (List.append_nil _)
  · exact .inr rfl

/-- Every request is one for the page at some address. -/
theorem request_of_mem {r : Request} (hr : r ∈ o.requests) : ∃ v, r = request config v := by
  rcases h.requests_eq with hrequests | hrequests <;>
    · rw [hrequests] at hr
      obtain ⟨v, -, rfl⟩ := List.mem_map.mp hr
      exact ⟨v, rfl⟩

theorem sparing (hredirects : redirects = config.maxRedirects) : Sparing net config o.requests := by
  have hlength := h.length
  refine ⟨?number, fun r hr => ?verb, fun r hr => ?userAgent, ?led⟩
  case number =>
    rcases h.requests_eq with hrequests | hrequests <;>
      simp only [hrequests, List.length_map, List.length_append, List.length_singleton] <;> omega
  case verb =>
    obtain ⟨v, rfl⟩ := h.request_of_mem hr
    rfl
  case userAgent =>
    obtain ⟨v, rfl⟩ := h.request_of_mem hr
    rfl
  case led =>
    rcases h.requests_eq with hrequests | hrequests <;> rw [hrequests, List.isChain_map]
    · exact h.leads.left_of_append
    · exact h.leads

/-- The last request is for the last address, or its response leads there. -/
theorem last_request {r : Request} (hr : o.requests.getLast? = some r) :
    r = request config last ∨ LeadsTo net config r.url last := by
  rcases h.requests_eq with hrequests | hrequests
  · rw [hrequests, List.getLast?_map, Option.map_eq_some_iff] at hr
    obtain ⟨v, hv, rfl⟩ := hr
    exact .inr ((List.isChain_append.mp h.leads).2.2 v hv last rfl)
  · rw [hrequests, List.map_append, List.map_singleton, List.getLast?_concat] at hr
    exact .inl (Option.some.inj hr).symm

/-- Too many redirects are told of only when all that are allowed were followed. -/
theorem length_of_redirect {m : String} (hresult : o.result = .error (.redirect m)) :
    o.requests.length = redirects + 1 := by
  have hends := h.ends
  rw [hresult] at hends
  generalize hfetched : Except.error (FetchError.redirect m) = fetched at hends
  cases hends with
  | unanswered hsend =>
    cases hfetched
    exact absurd hsend (send_ne_redirect net config last m)
  | @answered response hsend hnext =>
    unfold pageOf at hfetched
    split at hfetched
    · next fault _ => cases fault <;> cases hfetched
    · cases hfetched
  | stopped hsend hnext hleft =>
    have hlength := h.length
    rw [h.requests, sent_of_ok hsend, List.length_append, List.length_map, List.length_singleton]
    omega
  | astray hsend hnext hweb hleft => cases hfetched

/-- Where the response leads on, a fetch ends by the number of redirects only. -/
theorem redirect_of_leadsTo (hleads : LeadsTo net config last target) :
    ∃ m, o.result = .error (.redirect m) := by
  have hends := h.ends
  generalize o.result = result at hends ⊢
  cases hends with
  | unanswered hnone =>
    obtain ⟨response, hsend, -⟩ := hleads
    rw [hsend] at hnone
    cases hnone
  | answered hsend hnone => exact absurd hnone (hleads.next_ne_none hsend)
  | stopped hsend hnext _ => exact ⟨_, rfl⟩
  | astray hsend hnext hastray _ =>
    obtain ⟨response, hsend', hnext', hweb⟩ := hleads
    obtain rfl := Except.ok.inj (hsend'.symm.trans hsend)
    obtain rfl := Option.some.inj (hnext'.symm.trans hnext)
    rw [hweb] at hastray
    cases hastray

theorem getLast?_requests (hsend : send net config last = .ok response) :
    o.requests.getLast? = some (request config last) := by
  rw [h.requests, sent_of_ok hsend, List.getLast?_concat]

end Trail

/-- A fetch ends at its first address, or goes on from the one that the response leads to with one
redirect less. -/
theorem follow_step (net : Network) (config : Config) (redirects : Nat) (u : Url) :
    Trail net config redirects u (follow net config redirects u) [] u ∨
      ∃ left target, redirects = left + 1 ∧ LeadsTo net config u target ∧
        follow net config redirects u = { follow net config left target with
          requests := sent net config u ++ (follow net config left target).requests } := by
  rw [follow.eq_def]
  cases hsend : send net config u with
  | error e => exact .inl (.single rfl (.unanswered hsend))
  | ok response =>
    cases hnext : next? u response with
    | none =>
      simp only [hnext]
      exact .inl (.single rfl (.answered hsend hnext))
    | some target =>
      cases redirects with
      | zero =>
        simp only [hnext]
        exact .inl (.single rfl (.stopped hsend hnext rfl))
      | succ left =>
        cases hweb : isWeb target with
        | false =>
          simp only [hnext, hweb, Bool.false_eq_true, if_false]
          exact .inl (.single rfl (.astray hsend hnext hweb (Nat.succ_ne_zero left)))
        | true =>
          refine .inr ⟨left, target, rfl, ⟨response, hsend, hnext, hweb⟩, ?_⟩
          simp only [hnext, hweb, if_true]

/-- Every fetch has a trail. -/
theorem follow_trail (net : Network) (config : Config) (redirects : Nat) (u : Url) :
    ∃ before last, Trail net config redirects u (follow net config redirects u) before last := by
  induction redirects generalizing u with
  | zero =>
    obtain htrail | ⟨left, target, hleft, -⟩ := follow_step net config 0 u
    · exact ⟨[], u, htrail⟩
    · cases hleft
  | succ redirects ih =>
    obtain htrail | ⟨left, target, hleft, hleads, hfollow⟩ := follow_step net config (redirects + 1) u
    · exact ⟨[], u, htrail⟩
    · obtain rfl := Nat.succ.inj hleft
      obtain ⟨before, last, htrail⟩ := ih target
      exact ⟨u :: before, last, hfollow ▸ htrail.cons hleads⟩

/-- The address that a fetch starts from; nothing if no request can be made of what is given. -/
def start? (config : Config) (url : String) : Option Url :=
  if isSendable config.userAgent then ((Url.parse? url).map (·.withoutUser)).filter isAddressable else none

/-- A fetch has a trail from the address that it starts from, and without one it asks for nothing. -/
theorem run_trail (net : Network) (config : Config) (url : String) :
    (start? config url = none ∧ ∃ e, (∀ m, e ≠ .redirect m) ∧ run net config url = ⟨.error e, [], none⟩) ∨
      ∃ u before last, start? config url = some u ∧
        Trail net config config.maxRedirects u (run net config url) before last := by
  unfold run start?
  cases hagent : isSendable config.userAgent with
  | false => exact .inl ⟨rfl, _, fun m => FetchError.noConfusion, rfl⟩
  | true =>
    cases hparse : Url.parse? url with
    | none => exact .inl ⟨rfl, _, fun m => FetchError.noConfusion, rfl⟩
    | some u =>
      cases haddress : isAddressable u.withoutUser with
      | false =>
        refine .inl ⟨?_, .request ("builder error" ++ forUrl u.withoutUser), fun m => FetchError.noConfusion, ?_⟩
        · show (some u.withoutUser).filter isAddressable = none
          rw [Option.filter_some, haddress]
          rfl
        · simp only [haddress]
          rfl
      | true =>
        obtain ⟨before, last, htrail⟩ := follow_trail net config config.maxRedirects u.withoutUser
        refine .inr ⟨u.withoutUser, before, last, Option.filter_eq_some_iff.mpr ⟨rfl, haddress⟩, ?_⟩
        simp only [haddress]
        exact htrail

end PageAudit.Fetch
