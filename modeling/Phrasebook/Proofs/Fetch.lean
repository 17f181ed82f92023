import Phrasebook.Fetch

/-!
# What fetchers answer

The errors of a fetcher that asks servers are about the exchange and what came with it.  None is
about the URL, since a request has one that is well formed: `Fetcher.not_refuses_http`.
-/

namespace Phrasebook

namespace Fetcher

variable {σ : Type}

/-- `fetcher.Refuses e`: in some state, the fetcher answers some request with the error `e`. -/
def Refuses (fetcher : Fetcher σ) (e : LoadError) : Prop :=
  ∃ mode request state, (fetcher mode request state).1.result = .error e

/-- No reply is an error about the URL. -/
theorem result_ne_invalidUrl (reply : Reply) (url : String) (fault : Url.Fault) :
    reply.result ≠ .error (.invalidUrl url fault) := by
  intro h
  cases reply with
  | noClient | unreached => exact nomatch h
  | answered status phrase body =>
    unfold Reply.result at h
    dsimp only at h
    by_cases hsuccess : 200 ≤ status ∧ status < 300
    · rw [if_pos hsuccess] at h
      cases body with
      | error causes => exact nomatch h
      | ok text =>
        dsimp only at h
        cases hparse : MessageTree.parse text with
        | ok tree => exact nomatch hparse ▸ h
        | error catalogFault => exact nomatch hparse ▸ h
    · rw [if_neg hsuccess] at h
      exact nomatch h

theorem not_refuses_http (exchange : Exchange σ) (url : String) (fault : Url.Fault) :
    ¬ (http exchange).Refuses (.invalidUrl url fault) := by
  rintro ⟨mode, request, state, h⟩
  exact result_ne_invalidUrl (exchange mode request state).1.1 url fault h

end Fetcher

end Phrasebook
