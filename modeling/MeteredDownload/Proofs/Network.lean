import MeteredDownload.Http.Fetch
import MeteredDownload.Proofs.Acquisition
import MeteredDownload.Proofs.Body

/-!
# What the network is asked

Whatever a request leads to, redirects and agents that cannot be made among it, no more is done to the world than
that requests are sent, and where there is no response a failure says why (`Http.asking_respond`).
-/
set_option autoImplicit false
namespace MeteredDownload.Http

open Program

/-- The world after is the one before, but for the requests that were sent. -/
def Asks (w after : World) : Prop := { after with requests := w.requests } = w

/-- The action does no more than send requests, and what it fails with is a failure. -/
structure Asking {α : Type} (p : Program α) : Prop where
  asks : Within Asks p
  fails : ∀ (w : World) (reason : Value), (p.on w).1 = .error reason → ∃ failure : Failure, reason = .error failure

section Asking
variable {α β : Type}

theorem Asks.refl (w : World) : Asks w w := rfl

theorem Asks.trans {first second third : World} (before : Asks first second) (after : Asks second third) :
    Asks first third := by
  have same := congrArg (fun w : World => { w with requests := first.requests }) after
  exact same.trans before

theorem Asks.same {γ : Type} {w after : World} (asks : Asks w after) (part : World → γ)
    (apart : ∀ (w : World) requests, part { w with requests := requests } = part w) : part after = part w :=
  (apart after w.requests).symm.trans (congrArg part asks)

theorem asking_of_ok {p : Program α} (comes : ∀ w, ∃ a after, p.on w = (.ok a, after) ∧ Asks w after) :
    Asking p := by
  refine ⟨?_, ?_⟩
  · intro w
    obtain ⟨a, after, came, asks⟩ := comes w
    rw [came]
    exact asks
  · intro w reason failed
    obtain ⟨a, after, came, _⟩ := comes w
    rw [came] at failed
    cases failed

theorem asking_pure (a : α) : Asking (pure a : Program α) := asking_of_ok fun w => ⟨a, w, rfl, .refl w⟩

theorem asking_get : Asking (get : Program World) := asking_of_ok fun w => ⟨w, w, rfl, .refl w⟩

theorem asking_fail (failure : Failure) : Asking (fail failure : Program α) := by
  refine ⟨?_, ?_⟩
  · intro w
    rw [on_fail]
    exact .refl w
  · intro w reason failed
    rw [on_fail] at failed
    cases failed
    exact ⟨failure, rfl⟩

theorem Asking.bind {p : Program α} {f : α → Program β} (first : Asking p) (later : ∀ a, Asking (f a)) :
    Asking (p >>= f) := by
  refine ⟨?_, ?_⟩
  · exact Within.bind Asks.trans first.asks fun a => (later a).asks
  · intro w reason
    have before := first.fails w
    rw [on_bind]
    revert before
    rcases p.on w with ⟨other | a, after⟩
    · intro before failed
      cases failed
      exact before _ rfl
    · intro _ failed
      exact (later a).fails after reason failed

theorem asking_fail_bind (failure : Failure) (f : α → Program β) : Asking ((fail failure : Program α) >>= f) :=
  asking_fail failure

theorem asking_transmit (wire : Wire) (client : Client) (agent? : Option Agent) (url : Url) (target : String) :
    Asking (transmit wire client agent? url target) := by
  refine Asking.bind (asking_of_ok fun w => ⟨(), _, rfl, rfl⟩) fun _ => ?_
  split
  · exact asking_pure _
  · exact asking_fail _

theorem asking_exchange (wire : Wire) (client : Client) (agent? : Option Agent) (url : Url) :
    Asking (exchange wire client agent? url) := by
  unfold exchange
  split
  · exact asking_transmit wire client agent? url _
  · exact asking_fail _

theorem asking_prepare (client : Client) (url : Url) : Asking (prepare client url) := by
  -- The agent is chosen only where both checks in front of it let the URL pass.
  unfold prepare
  dsimp only
  split
  · exact asking_fail_bind _ _
  split
  · exact asking_fail_bind _ _
  refine asking_get.bind fun w => ?_
  split
  · exact asking_pure _
  · exact asking_fail _

theorem asking_send (wire : Wire) (client : Client) (given : String) (url : Url) :
    Asking (send wire client given url) := by
  refine (asking_prepare client url).bind fun agent? => ?_
  split
  · split
    · exact asking_pure _
    · exact asking_fail _
  · exact asking_exchange wire client agent? url
  · exact asking_exchange wire client agent? url
  · exact asking_fail _

theorem asking_redirected (url : Url) (response : Response) {next : Url → Program Response}
    (later : ∀ target, Asking (next target)) : Asking (redirected url response next) := by
  unfold redirected
  split
  · exact asking_pure _
  · split
    · exact asking_fail _
    · exact later _

theorem asking_follow (wire : Wire) (client : Client) (left : Nat) (given : String) (url : Url) :
    Asking (follow wire client left given url) := by
  -- On the number of redirects that are left.
  induction left generalizing given url with
  | zero =>
    refine (asking_send wire client given url).bind fun response => ?_
    exact asking_redirected url response fun _ => asking_fail _
  | succ left ih =>
    refine (asking_send wire client given url).bind fun response => ?_
    exact asking_redirected url response fun target => ih requestMark target

theorem asking_respond (wire : Wire) (client : Client) (url : String) : Asking (respond wire client url) := by
  unfold respond
  split
  · exact asking_fail _
  · exact asking_follow wire client _ _ _

end Asking
end MeteredDownload.Http
