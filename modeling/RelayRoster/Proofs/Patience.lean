import Mathlib
import RelayRoster.Proofs.Dialling

namespace RelayRoster

namespace Dial

/-- Whether a dial starts as another one does, and is that one unless it timed out. -/
structure Outlasts (d' d : Dial) : Prop where
  attempts : d.attempts <+: d'.attempts
  eq_of_settled : (∀ t, d.result ≠ .error (.timeout t)) → d' = d

section

variable {net : Network} {limit limit' : Duration} {d d' : Dial} {p : SocketAddress}
  {e : SystemError}

theorem Outlasts.refl (d : Dial) : Outlasts d d := ⟨List.prefix_refl _, fun _ => rfl⟩

/-- Anything outlasts a dial that timed out before it tried anything. -/
theorem Outlasts.of_timeout {t : Duration} (ha : d.attempts = [])
    (hr : d.result = .error (.timeout t)) : Outlasts d' d where
  attempts := by
    rw [ha]
    exact List.nil_prefix
  eq_of_settled hs := absurd hr (hs t)

theorem Outlasts.cons (h : Outlasts d' d) :
    Outlasts { d' with attempts := p :: d'.attempts, refused := (p, e) :: d'.refused }
      { d with attempts := p :: d.attempts, refused := (p, e) :: d.refused } where
  attempts := List.cons_prefix_cons.mpr ⟨rfl, h.attempts⟩
  eq_of_settled hs := by rw [h.eq_of_settled hs]

theorem exhausted_eq_of_settled {e? : Option SystemError}
    (hs : ∀ t, exhausted limit e? ≠ .timeout t) : exhausted limit' e? = exhausted limit e? := by
  rcases e? with _ | e
  · rfl
  · cases e with
    | timedOut => exact absurd rfl (hs limit)
    | _ => rfl

/-- The clock of both is the same until the shorter limit is reached, so that up to there the same
targets are tried and the same error is the last. -/
theorem connectEach_outlasts (hle : limit.nanos ≤ limit'.nanos) (last : Option SystemError)
    (now : Nat) (targets : List SocketAddress) :
    Outlasts (connectEach net limit' last now targets) (connectEach net limit last now targets) := by
  induction targets generalizing last now with
  | nil =>
    refine ⟨List.prefix_refl _, fun hs => ?_⟩
    have hs (t : Duration) : exhausted limit last ≠ .timeout t := fun ht => hs t (congrArg _ ht)
    rw [connectEach, connectEach, exhausted_eq_of_settled hs]
  | cons p targets ih =>
    by_cases hl : limit.nanos ≤ now
    · apply Outlasts.of_timeout (t := limit)
      · rw [connectEach, if_pos hl]
      · rw [connectEach, if_pos hl]
    · rw [connectEach, connectEach, if_neg hl, if_neg (by omega : ¬ limit'.nanos ≤ now)]
      dsimp only
      cases (net.connect p).answer with
      | none => exact .refl _
      | some e => exact (ih (some e) _).cons

/-- With more time there is a second connect, and it succeeds. -/
example :
    let first : SocketAddress := ⟨.v4 #v[10, 0, 0, 1], 80, 0⟩
    let second : SocketAddress := ⟨.v4 #v[10, 0, 0, 2], 80, 0⟩
    let net : Network := { sockets := [(second, ⟨none, ⟨9⟩⟩), (first, ⟨some .timedOut, ⟨5⟩⟩)] }
    (connectEach net ⟨5⟩ none 0 [first, second]).result = .error (.timeout ⟨5⟩) ∧
      (connectEach net ⟨6⟩ none 0 [first, second]).result = .ok () :=
  ⟨rfl, rfl⟩

theorem resolved?_of_le (hle : limit.nanos ≤ limit'.nanos) {address : String}
    {found : Delayed (Except LookupFailure (List SocketAddress))}
    (h : resolved? net address limit = some found) : resolved? net address limit' = some found := by
  unfold resolved? at h ⊢
  cases ha : SocketAddress.ofText? address with
  | some peer => rwa [ha] at h
  | none =>
    rw [ha] at h
    dsimp only at h ⊢
    split at h
    next hl => rwa [if_pos (by omega)]
    next hl => cases h

theorem run_outlasts (hle : limit.nanos ≤ limit'.nanos) (net : Network) (address : String) :
    Outlasts (run net address limit') (run net address limit) := by
  rw [run_eq net address limit]
  cases hr : resolved? net address limit with
  | none => exact .of_timeout rfl rfl
  | some found =>
    rw [run_eq, resolved?_of_le hle hr]
    rcases found with ⟨failure | targets, delay⟩
    · exact .refl _
    · exact connectEach_outlasts hle none delay.nanos targets

/-- A timeout is one of the limit that was given. -/
theorem limit_of_timeout {address : String} {t : Duration}
    (h : (run net address limit).result = .error (.timeout t)) : t = limit :=
  (((run_accounted net address limit).timeout_iff (by simp [h]) t).mp h).1

end

end Dial

theorem Network.clockOverflows_eq_false_of_le {net : Network} {limit limit' : Duration}
    (hle : limit.nanos ≤ limit'.nanos) (h : net.clockOverflows limit' = false) :
    net.clockOverflows limit = false := by
  rw [clockOverflows_eq_false_iff] at h ⊢
  omega

namespace Relay

variable {b b' : Relay} {net : Network}

section

variable (ha : b'.address = b.address) (hle : b.timeout.nanos ≤ b'.timeout.nanos)
  (h : net.clockOverflows b'.timeout = false)
include ha hle h

theorem attempts_of_longer : (b.probe net).attempts <+: (b'.probe net).attempts := by
  rw [probe_attempts h, probe_attempts (Network.clockOverflows_eq_false_of_le hle h), ha]
  exact (Dial.run_outlasts hle net b.address).attempts

theorem probe_eq_of_settled
    (hs : (b.probe net).result ≠ .ok (.error ⟨b.address, .timeout b.timeout⟩)) :
    (b'.probe net).result = (b.probe net).result ∧
      (b'.probe net).attempts = (b.probe net).attempts := by
  have hb := Network.clockOverflows_eq_false_of_le hle h
  have hd : Dial.run net b.address b'.timeout = Dial.run net b.address b.timeout := by
    apply (Dial.run_outlasts hle net b.address).eq_of_settled
    intro t ht
    have hr := probe_result hb
    rw [ht, Dial.limit_of_timeout ht] at hr
    exact hs hr
  rw [probe_result h, probe_result hb, probe_attempts h, probe_attempts hb, ha, hd]
  exact ⟨rfl, rfl⟩

end

/-- A longer limit never hurts. Of two probes of an address the one with the longer limit tries what
the other one tries, and after that perhaps more; and unless the other one timed out, both come to
the same by the same attempts. -/
theorem probe_of_longer (ha : b'.address = b.address) (hle : b.timeout.nanos ≤ b'.timeout.nanos)
    (h : net.clockOverflows b'.timeout = false) :
    (b.probe net).attempts <+: (b'.probe net).attempts ∧
      ((b.probe net).result = .ok (.ok ()) → (b'.probe net).result = .ok (.ok ()) ∧
        (b'.probe net).attempts = (b.probe net).attempts) ∧
      (∀ f, (b.probe net).result = .ok (.error f) →
        (∃ l, f.cause = .lookup l) ∨ (∃ o, f.cause = .unreachable o) →
        (b'.probe net).result = .ok (.error f) ∧
          (b'.probe net).attempts = (b.probe net).attempts) ∧
      ((b.probe net).result ≠ .ok (.error ⟨b.address, .timeout b.timeout⟩) →
        (b'.probe net).result = (b.probe net).result ∧
          (b'.probe net).attempts = (b.probe net).attempts) := by
  have hsettled := probe_eq_of_settled ha hle h
  refine ⟨attempts_of_longer ha hle h, fun hr => ?_, fun f hr hf => ?_, hsettled⟩
  · rw [hr] at hsettled
    exact hsettled (by simp)
  · rw [hr] at hsettled
    apply hsettled
    intro hto
    cases hto
    simp at hf

/-- All targets fail within the shorter limit, the last of them for another reason than time. -/
theorem probe_of_longer_of_reset :
    ∃ (b b' : Relay) (net : Network), b'.address = b.address ∧
      b.timeout.nanos ≤ b'.timeout.nanos ∧ net.clockOverflows b'.timeout = false ∧
      (b.probe net).result =
        .ok (.error ⟨"relay:80", .unreachable (.system .connectionReset)⟩) ∧
      (b'.probe net).result =
        .ok (.error ⟨"relay:80", .unreachable (.system .connectionReset)⟩) ∧
      (b'.probe net).attempts = [⟨.v4 #v[10, 0, 0, 1], 80, 0⟩, ⟨.v4 #v[10, 0, 0, 2], 80, 0⟩] := by
  let b : Relay := ⟨"relay:80", ⟨100⟩, .create 2 3⟩
  let b' : Relay := ⟨"relay:80", ⟨5000⟩, .create 1 1⟩
  let targets : List SocketAddress :=
    [⟨.v4 #v[10, 0, 0, 1], 80, 0⟩, ⟨.v4 #v[10, 0, 0, 2], 80, 0⟩]
  let net : Network :=
    { names := [("relay", ⟨.ok [.v4 #v[10, 0, 0, 1], .v4 #v[10, 0, 0, 2]], ⟨20⟩⟩)]
      sockets := [(⟨.v4 #v[10, 0, 0, 1], 80, 0⟩, ⟨some .timedOut, ⟨40⟩⟩),
        (⟨.v4 #v[10, 0, 0, 2], 80, 0⟩, ⟨some .connectionReset, ⟨50⟩⟩)] }
  have ha : b'.address = b.address := rfl
  have hle : b.timeout.nanos ≤ b'.timeout.nanos := by decide
  have hb : net.clockOverflows b.timeout = false := by decide
  have hb' : net.clockOverflows b'.timeout = false := by decide
  have hres : Dial.Resolves net b.address b.timeout targets 20 := by
    unfold Dial.Resolves
    cbv
  have hd : Dial.run net b.address b.timeout =
      Dial.connectEach net b.timeout none 20 targets := by
    rw [Dial.run_eq, hres]
  have hat : (b.probe net).attempts = targets := by
    rw [probe_attempts hb, hd]
    decide
  have hr : (b.probe net).result =
      .ok (.error ⟨"relay:80", .unreachable (.system .connectionReset)⟩) := by
    rw [probe_result hb, hd]
    rfl
  obtain ⟨-, -, hsame, -⟩ := probe_of_longer ha hle hb'
  obtain ⟨hr', hat'⟩ := hsame _ hr (.inr ⟨_, rfl⟩)
  exact ⟨b, b', net, ha, hle, hb', hr, hr', hat'.trans hat⟩

end Relay
end RelayRoster
