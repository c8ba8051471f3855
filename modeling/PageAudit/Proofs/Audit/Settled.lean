import PageAudit.Proofs.Audit.Outcome
import PageAudit.Proofs.Fetch.Trail
/-!
How an audit ends. Whatever a server does, an audit asks for a page and for those that it is led on to, no
more of them than the settings allow, and tries nothing again. Then it has the page of the last response, or
an error and nothing of what came before it (`audit_settles`).
-/
namespace PageAudit

open Fetch

variable {net : Network} {config : Config} {now : ZonedTime} {url : String} {u last : Url}
  {before : List Url} {o : Outcome}

/-- What an audit that made some requests ends with. -/
inductive Settled (net : Network) (config : Config) (now : ZonedTime) (url : String)
    (requests : List Request) : AuditResult → Prop
  /-- The last response leads no further and has a whole body: it is the page, whatever its status. -/
  | page {last : Url} {response : Response} {body : List UInt8} :
      requests.getLast? = some (request config last) → send net config last = .ok response →
      next? last response = none → response.body = .ok body →
      Settled net config now url requests (.evaluate url
        { finalUrl := last.text
          status := response.status
          headers := response.headers
          body := (Response.charset response.headers).decode body
          loadTime := net.elapsed } now)
  /-- There is no such response: whatever came, all that is told is the error. -/
  | failed {e : FetchError} :
      (∀ last response, requests.getLast? = some (request config last) → send net config last = .ok response →
        next? last response = none → ∃ fault, response.body = .error fault) →
      Settled net config now url requests (.failed url now (failureText e))

/-- An audit fails if the last address of its trail has no response that is a page. -/
theorem Settled.ofTrail {e : FetchError} (h : Trail net config config.maxRedirects u o before last)
    (hlast : ∀ response, send net config last = .ok response → next? last response = none →
      ∃ fault, response.body = .error fault) :
    Settled net config now url o.requests (.failed url now (failureText e)) := by
  refine .failed fun v response hv hsend hnext => ?_
  rcases h.last_request hv with hv | hleads
  · obtain rfl : v = last := congrArg Request.url hv
    exact hlast response hsend hnext
  · -- the response leads on, so that it is not the last one
    exact absurd hnext (hleads.next_ne_none hsend)

theorem settled_of_trail (h : Trail net config config.maxRedirects u o before last) (now : ZonedTime)
    (url : String) : Settled net config now url o.requests (.ofFetch url now o.result) := by
  have hends := h.ends
  generalize o.result = result at hends ⊢
  cases hends with
  | unanswered hsend =>
    refine .ofTrail h fun response hresponse _ => ?_
    rw [hsend] at hresponse
    cases hresponse
  | @answered response hsend hnext =>
    cases hbody : response.body with
    | ok body =>
      rw [pageOf_ok hbody]
      exact .page (h.getLast?_requests hsend) hsend hnext hbody
    | error fault =>
      rw [pageOf, hbody]
      refine .ofTrail h fun response' hresponse _ => ?_
      obtain rfl := Except.ok.inj (hsend.symm.trans hresponse)
      exact ⟨fault, hbody⟩
  | stopped hsend hnext _ | astray hsend hnext _ _ =>
    refine .ofTrail h fun response' hresponse hnone => ?_
    obtain rfl := Except.ok.inj (hsend.symm.trans hresponse)
    rw [hnext] at hnone
    cases hnone

/-- **Every audit ends, and tries nothing again.** Whatever a server does with each request, an audit goes from
the address that was typed to those that the responses lead to, one after the other, and ends where that ends.
It makes no more requests than the redirects that the settings allow and one, all to read and under the name
that the settings give, and each but the first is for the address that the response to the one before leads to: an
exchange that went wrong is the last one. Then the audit has the page that the last response holds, which may
tell of an error of the server, or it has an error and nothing else, even if a status came before. There
are too many redirects only when all that are allowed were followed, and always if they have no end. -/
theorem audit_settles (net : Network) (config : Config) (now : ZonedTime) (input : String) :
    let url := normalizeUrl input
    let run := audit net config now input
    (start? config url = none ∧ run.requests = [] ∨ ∃ u before last, start? config url = some u ∧
        Trail net config config.maxRedirects u (Fetch.run net config url) before last) ∧
      Sparing net config run.requests ∧ Settled net config now url run.requests run.result ∧
      (∀ u response, 400 ≤ response.status.toNat → next? u response = none) ∧
      (∀ e, (Fetch.run net config url).result = .error e →
        run.result = .failed url now ("Failed to access website: " ++ e.message) ∧ run.result.WithoutPage) ∧
      (∀ m, (Fetch.run net config url).result = .error (.redirect m) →
        run.requests.length = config.maxRedirects + 1) ∧
      ((∀ u, ∃ target, LeadsTo net config u target) → start? config url ≠ none →
        ∃ m, (Fetch.run net config url).result = .error (.redirect m)) := by
  intro url run
  have hrequests : run.requests = (Fetch.run net config url).requests := rfl
  have hresult : run.result = .ofFetch url now (Fetch.run net config url).result := rfl
  have htrail := run_trail net config url
  clear_value run url
  rw [hrequests, hresult]
  generalize Fetch.run net config url = o at htrail
  have hfailed : ∀ e, o.result = .error e →
      AuditResult.ofFetch url now o.result = .failed url now ("Failed to access website: " ++ e.message) ∧
        (AuditResult.ofFetch url now o.result).WithoutPage := by
    intro e he
    rw [he]
    exact ⟨rfl, AuditResult.withoutPage_failed ..⟩
  obtain ⟨hstart, e, hredirect, rfl⟩ | ⟨u, before, last, hstart, htrail⟩ := htrail
  · refine ⟨.inl ⟨hstart, rfl⟩, .nil, .failed ?_, fun u _ => next?_of_status u, hfailed, ?_,
      fun _ hsome => absurd hstart hsome⟩
    · intro last response hr
      cases hr
    · intro m hm
      exact absurd (Except.error.inj hm) (hredirect m)
  · refine ⟨.inr ⟨u, before, last, hstart, htrail⟩, htrail.sparing rfl, settled_of_trail htrail now url,
      fun u _ => next?_of_status u, hfailed, fun m hm => htrail.length_of_redirect hm, fun hendless _ => ?_⟩
    obtain ⟨target, hleads⟩ := hendless last
    exact htrail.redirect_of_leadsTo hleads

end PageAudit
