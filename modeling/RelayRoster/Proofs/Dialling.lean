import Mathlib
import RelayRoster.Endpoint

namespace RelayRoster

namespace Dial

def spent (net : Network) (peers : List SocketAddress) : Nat :=
  (peers.map fun p => (net.connect p).delay.nanos).sum

def lastError? (net : Network) (peers : List SocketAddress) : Option SystemError :=
  peers.getLast?.bind fun p => (net.connect p).answer

section

variable {net : Network} {limit : Duration} {last : Option SystemError} {now : Nat}
  {targets : List SocketAddress} {d : Dial} {p : SocketAddress} {e : SystemError}

theorem spent_cons (p : SocketAddress) (ps : List SocketAddress) :
    spent net (p :: ps) = (net.connect p).delay.nanos + spent net ps := List.sum_cons

theorem lastError?_cons {ps : List SocketAddress} (he : (net.connect p).answer = some e)
    (hf : ∀ q ∈ ps, (net.connect q).answer ≠ none) :
    lastError? net (p :: ps) = (lastError? net ps).or (some e) := by
  unfold lastError?
  rw [List.getLast?_cons]
  cases hl : ps.getLast? with
  | none => exact he
  | some q =>
    have hq := hf q (List.mem_of_getLast? hl)
    obtain ⟨e', he'⟩ := Option.ne_none_iff_exists'.mp hq
    simp [he']

/-- How connects to targets come to an end: one succeeds; or all so far fail and the limit is
reached with a target left; or they fail for all targets. -/
inductive Ending (net : Network) (limit : Duration) (last : Option SystemError) (now : Nat)
    (targets : List SocketAddress) (d : Dial) : Prop
  | connected {p : SocketAddress} (hp : d.attempts.getLast? = some p)
      (ha : (net.connect p).answer = none) (hr : d.result = .ok ())
  | late (hf : ∀ p ∈ d.attempts, (net.connect p).answer ≠ none) (ha : d.attempts ≠ targets)
      (hl : limit.nanos ≤ now + spent net d.attempts) (hr : d.result = .error (.timeout limit))
  | exhausted (hf : ∀ p ∈ d.attempts, (net.connect p).answer ≠ none) (ha : d.attempts = targets)
      (hr : d.result = .error (exhausted limit ((lastError? net targets).or last)))

/-- How connects to targets go from a time on: in order, none started at the limit or later, all but
the last without success. -/
structure Course (net : Network) (limit : Duration) (last : Option SystemError) (now : Nat)
    (targets : List SocketAddress) (d : Dial) : Prop where
  inOrder : d.attempts <+: targets
  inTime : ∀ k < d.attempts.length, now + spent net (d.attempts.take k) < limit.nanos
  elapsed : d.elapsed = ⟨now + spent net d.attempts⟩
  failing : ∀ p ∈ d.attempts.dropLast, (net.connect p).answer ≠ none
  ending : Ending net limit last now targets d

/-- A connect that fails goes before the others. -/
theorem Course.cons (hlt : now < limit.nanos) (he : (net.connect p).answer = some e)
    (h : Course net limit (some e) (now + (net.connect p).delay.nanos) targets d) :
    Course net limit last now (p :: targets)
      { d with attempts := p :: d.attempts, refused := (p, e) :: d.refused } where
  inOrder := List.cons_prefix_cons.mpr ⟨rfl, h.inOrder⟩
  inTime := by
    intro k hk
    cases k with
    | zero => exact hlt
    | succ k =>
      rw [List.take_succ_cons, spent_cons, ← Nat.add_assoc]
      exact h.inTime k (Nat.lt_of_succ_lt_succ hk)
  elapsed := by
    rw [h.elapsed]
    dsimp only
    rw [spent_cons, Nat.add_assoc]
  failing := by
    have hp : (net.connect p).answer ≠ none := by simp [he]
    dsimp only
    cases ha : d.attempts with
    | nil => simp
    | cons q qs =>
      rw [List.dropLast_cons_cons, ← ha]
      exact List.forall_mem_cons.mpr ⟨hp, h.failing⟩
  ending := by
    have hp : (net.connect p).answer ≠ none := by simp [he]
    have hspent : now + spent net (p :: d.attempts) =
        now + (net.connect p).delay.nanos + spent net d.attempts := by
      rw [spent_cons, Nat.add_assoc]
    -- How it ends is settled by the targets to come; the time and the last error are carried over.
    cases h.ending with
    | connected hq ha hr =>
      refine .connected ?_ ha hr
      rw [List.getLast?_cons, hq]
      rfl
    | late hf ha hl hr =>
      refine .late (List.forall_mem_cons.mpr ⟨hp, hf⟩) (by simpa using ha) ?_ hr
      rwa [hspent]
    | exhausted hf ha hr =>
      refine .exhausted (List.forall_mem_cons.mpr ⟨hp, hf⟩) (by rw [ha]) ?_
      rw [lastError?_cons he (ha ▸ hf), Option.or_assoc, Option.some_or]
      exact hr

theorem connectEach_course (net : Network) (limit : Duration) (last : Option SystemError)
    (now : Nat) (targets : List SocketAddress) :
    Course net limit last now targets (connectEach net limit last now targets) := by
  induction targets generalizing last now with
  | nil =>
    refine ⟨List.prefix_refl _, fun k hk => absurd hk (Nat.not_lt_zero k), rfl, ?_, ?_⟩
    · simp [connectEach]
    · exact .exhausted (by simp [connectEach]) rfl rfl
  | cons p targets ih =>
    unfold connectEach
    split
    next hl => exact ⟨List.nil_prefix, by simp, rfl, by simp, .late (by simp) (by simp) hl rfl⟩
    next hl =>
      dsimp only
      split
      next ha =>
        refine ⟨by simp, ?_, by simp [spent], by simp, .connected rfl ha rfl⟩
        simpa [spent] using hl
      next e he => exact (ih (some e) _).cons (not_le.mp hl) he

end

/-- What an address resolves to within a limit, and how long that takes: a literal stands for itself
at once; for any other address a lookup has to answer before the limit. -/
def resolved? (net : Network) (address : String) (limit : Duration) :
    Option (Delayed (Except LookupFailure (List SocketAddress))) :=
  match SocketAddress.ofText? address with
  | some peer => some ⟨.ok [peer], ⟨0⟩⟩
  | none =>
    if (lookup net address).delay.nanos < limit.nanos then some (lookup net address) else none

def Resolves (net : Network) (address : String) (limit : Duration) (targets : List SocketAddress)
    (began : Nat) : Prop :=
  resolved? net address limit = some ⟨.ok targets, ⟨began⟩⟩

theorem run_eq (net : Network) (address : String) (limit : Duration) :
    run net address limit = match resolved? net address limit with
      | none => { result := .error (.timeout limit), elapsed := limit }
      | some ⟨.error failure, delay⟩ => { result := .error (.lookup failure), elapsed := delay }
      | some ⟨.ok targets, delay⟩ => connectEach net limit none delay.nanos targets := by
  unfold run resolved?
  cases SocketAddress.ofText? address with
  | some peer => rfl
  | none =>
    dsimp only
    by_cases hl : limit.nanos ≤ (lookup net address).delay.nanos
    · rw [if_pos hl, if_neg (not_lt.mpr hl)]
    · rw [if_neg hl, if_pos (not_le.mp hl)]
      rcases lookup net address with ⟨failure | targets, delay⟩
      · rfl
      · rfl

/-- What a dialled address comes to, told from what it resolves to and from how the network answers
the connects. -/
structure Accounted (net : Network) (address : String) (limit : Duration) (d : Dial) : Prop where
  /-- The targets are tried in order from when they are known, each of them before the limit. -/
  inOrder : ∀ {targets began}, Resolves net address limit targets began →
    d.attempts <+: targets ∧ d.elapsed = ⟨began + spent net d.attempts⟩ ∧
      ∀ k < d.attempts.length, began + spent net (d.attempts.take k) < limit.nanos
  unresolved : (∀ targets began, ¬ Resolves net address limit targets began) → d.attempts = []
  /-- Only the last of them can succeed. -/
  failing : ∀ p ∈ d.attempts.dropLast, (net.connect p).answer ≠ none
  ok_iff : d.result = .ok () ↔
    ∃ p, d.attempts.getLast? = some p ∧ (net.connect p).answer = none
  timeout_iff : d.result ≠ .ok () → ∀ t, d.result = .error (.timeout t) ↔ t = limit ∧
    (resolved? net address limit = none ∨
      ∃ targets began, Resolves net address limit targets began ∧
        (d.attempts ≠ targets ∧ limit.nanos ≤ began + spent net d.attempts ∨
          d.attempts = targets ∧ lastError? net targets = some .timedOut))
  unreachable_iff : ∀ o, d.result = .error (.unreachable o) ↔
    ∃ targets began, Resolves net address limit targets began ∧ d.attempts = targets ∧
      ∃ e, lastError? net targets = some e ∧ e ≠ .timedOut ∧ o = .system e
  lookup_iff : ∀ f, d.result = .error (.lookup f) ↔
    (∃ delay, resolved? net address limit = some ⟨.error f, delay⟩) ∨
      (∃ began, Resolves net address limit [] began) ∧ f = .noAddresses
  noTime : limit.nanos = 0 → d.attempts = [] ∧ d.result ≠ .ok ()

theorem exhausted_eq_timeout_iff {limit t : Duration} {e? : Option SystemError} :
    exhausted limit e? = .timeout t ↔ t = limit ∧ e? = some .timedOut := by
  rcases e? with _ | e
  · simp [exhausted]
  · cases e <;> simp [exhausted, eq_comm]

theorem exhausted_eq_unreachable_iff {limit : Duration} {e? : Option SystemError} {o : Obstacle} :
    exhausted limit e? = .unreachable o ↔ ∃ e, e? = some e ∧ e ≠ .timedOut ∧ o = .system e := by
  rcases e? with _ | e
  · simp [exhausted]
  · cases e <;> simp [exhausted, eq_comm]

theorem exhausted_eq_lookup_iff {limit : Duration} {e? : Option SystemError} {f : LookupFailure} :
    exhausted limit e? = .lookup f ↔ e? = none ∧ f = .noAddresses := by
  rcases e? with _ | e
  · simp [exhausted, eq_comm]
  · cases e <;> simp [exhausted]

section

variable {net : Network} {address : String} {limit : Duration}
  {targets targets' : List SocketAddress} {began began' : Nat} {d : Dial}

theorem Resolves.unique (h : Resolves net address limit targets began)
    (h' : Resolves net address limit targets' began') : targets' = targets ∧ began' = began := by
  unfold Resolves at h h'
  rw [h] at h'
  simpa [eq_comm] using h'

theorem Resolves.exists_iff (h : Resolves net address limit targets began)
    (P : List SocketAddress → Nat → Prop) :
    (∃ ts n, Resolves net address limit ts n ∧ P ts n) ↔ P targets began := by
  constructor
  · rintro ⟨ts, n, h', hP⟩
    obtain ⟨rfl, rfl⟩ := h.unique h'
    exact hP
  · exact fun hP => ⟨_, _, h, hP⟩

theorem lastError?_eq_none_iff (hf : ∀ p ∈ targets, (net.connect p).answer ≠ none) :
    lastError? net targets = none ↔ targets = [] := by
  unfold lastError?
  rw [Option.bind_eq_none_iff]
  constructor
  · intro h
    rw [← List.getLast?_eq_none_iff, Option.eq_none_iff_forall_ne_some]
    exact fun p hp => hf p (List.mem_of_getLast? hp) (h p hp)
  · rintro rfl
    exact nofun

namespace Course

variable (h : Course net limit none began targets d)
include h

theorem ok_iff : d.result = .ok () ↔
    ∃ p, d.attempts.getLast? = some p ∧ (net.connect p).answer = none := by
  have hno (hf : ∀ p ∈ d.attempts, (net.connect p).answer ≠ none) :
      ¬ ∃ p, d.attempts.getLast? = some p ∧ (net.connect p).answer = none := by
    rintro ⟨p, hp, ha⟩
    exact hf p (List.mem_of_getLast? hp) ha
  cases h.ending with
  | connected hp ha hr => exact iff_of_true hr ⟨_, hp, ha⟩
  | late hf _ _ hr => exact iff_of_false (by simp [hr]) (hno hf)
  | exhausted hf _ hr => exact iff_of_false (by simp [hr]) (hno hf)

theorem timeout_iff (hne : d.result ≠ .ok ()) (t : Duration) :
    d.result = .error (.timeout t) ↔ t = limit ∧
      (d.attempts ≠ targets ∧ limit.nanos ≤ began + spent net d.attempts ∨
        d.attempts = targets ∧ lastError? net targets = some .timedOut) := by
  cases h.ending with
  | connected _ _ hr => exact absurd hr hne
  | late _ ha hl hr => simp [hr, ha, hl, eq_comm]
  | exhausted _ ha hr =>
    rw [Option.or_none] at hr
    simp [hr, ha, exhausted_eq_timeout_iff]

theorem unreachable_iff (o : Obstacle) :
    d.result = .error (.unreachable o) ↔ d.attempts = targets ∧
      ∃ e, lastError? net targets = some e ∧ e ≠ .timedOut ∧ o = .system e := by
  cases h.ending with
  | connected hp ha hr =>
    refine iff_of_false (by simp [hr]) ?_
    rintro ⟨rfl, e, he, -⟩
    simp [lastError?, hp, ha] at he
  | late _ ha _ hr => simp [hr, ha]
  | exhausted _ ha hr =>
    rw [Option.or_none] at hr
    simp only [hr, ha, Except.error.injEq, exhausted_eq_unreachable_iff, true_and]

theorem lookup_iff (f : LookupFailure) :
    d.result = .error (.lookup f) ↔ targets = [] ∧ f = .noAddresses := by
  have hnil (ht : targets = []) : d.attempts = [] := List.prefix_nil.mp (ht ▸ h.inOrder)
  cases h.ending with
  | connected hp _ hr =>
    refine iff_of_false (by simp [hr]) ?_
    rintro ⟨ht, -⟩
    simp [hnil ht] at hp
  | late _ ha _ hr =>
    refine iff_of_false (by simp [hr]) ?_
    rintro ⟨ht, -⟩
    exact ha ((hnil ht).trans ht.symm)
  | exhausted hf ha hr =>
    rw [Option.or_none] at hr
    rw [hr, Except.error.injEq, exhausted_eq_lookup_iff, lastError?_eq_none_iff (ha ▸ hf)]

/-- Without any time nothing is tried. -/
theorem attempts_of_noTime (hl : limit.nanos = 0) : d.attempts = [] := by
  by_contra hne
  have := h.inTime 0 (List.length_pos_of_ne_nil hne)
  omega

theorem accounted (hr : Resolves net address limit targets began) :
    Accounted net address limit d where
  inOrder := by
    -- The address resolves to one list of targets only, so what holds of it holds of any.
    intro targets' began' hr'
    obtain ⟨rfl, rfl⟩ := hr.unique hr'
    exact ⟨h.inOrder, h.elapsed, h.inTime⟩
  unresolved hno := absurd hr (hno _ _)
  failing := h.failing
  ok_iff := h.ok_iff
  timeout_iff := by
    intro hne t
    rw [h.timeout_iff hne, hr.exists_iff fun ts n => d.attempts ≠ ts ∧
      limit.nanos ≤ n + spent net d.attempts ∨
        d.attempts = ts ∧ lastError? net ts = some .timedOut]
    have hne : resolved? net address limit ≠ none := Option.ne_none_iff_exists'.mpr ⟨_, hr⟩
    simp only [hne, false_or]
  unreachable_iff := by
    intro o
    rw [h.unreachable_iff, hr.exists_iff fun ts _ => d.attempts = ts ∧
      ∃ e, lastError? net ts = some e ∧ e ≠ .timedOut ∧ o = .system e]
  lookup_iff := by
    intro f
    have hfound : ¬ ∃ delay, resolved? net address limit = some ⟨.error f, delay⟩ := by
      rintro ⟨delay, hf⟩
      exact absurd (hr.symm.trans hf) (by simp)
    have hnil : (∃ n, Resolves net address limit [] n) ↔ targets = [] := by
      constructor
      · rintro ⟨n, hn⟩
        exact (hr.unique hn).1.symm
      · rintro rfl
        exact ⟨_, hr⟩
    rw [h.lookup_iff, hnil, or_iff_right hfound]
  noTime := by
    intro hl
    have ha := h.attempts_of_noTime hl
    refine ⟨ha, ?_⟩
    rw [Ne, h.ok_iff, ha]
    simp

end Course

end

theorem run_accounted (net : Network) (address : String) (limit : Duration) :
    Accounted net address limit (run net address limit) := by
  rw [run_eq]
  rcases hr : resolved? net address limit with _ | ⟨failure | targets, delay⟩
  · constructor <;> simp [Resolves, hr, eq_comm]
  · constructor <;> simp [Resolves, hr]
  · exact (connectEach_course net limit none delay.nanos targets).accounted hr

end Dial

namespace Relay

section

variable {b : Relay} {net : Network} (h : net.clockOverflows b.timeout = false)
include h

theorem probe_result :
    (b.probe net).result =
      .ok ((Dial.run net b.address b.timeout).result.mapError (ProbeFailure.mk b.address)) := by
  unfold probe
  rw [if_neg (by simp [h])]
  dsimp only
  cases (Dial.run net b.address b.timeout).result with
  | ok _ => rfl
  | error _ => rfl

theorem probe_attempts :
    (b.probe net).attempts = (Dial.run net b.address b.timeout).attempts := by
  unfold probe
  rw [if_neg (by simp [h])]

theorem probe_elapsed : (b.probe net).elapsed = (Dial.run net b.address b.timeout).elapsed := by
  unfold probe
  rw [if_neg (by simp [h])]

end

/-- A probe within the clock's range dials its address within its limit, and what it tries and fails
with is accounted for by what the network answers, and when. -/
theorem probe_accounted (b : Relay) (net : Network) (h : net.clockOverflows b.timeout = false) :
    let d := Dial.run net b.address b.timeout
    (b.probe net).result = .ok (d.result.mapError (ProbeFailure.mk b.address)) ∧
      (b.probe net).attempts = d.attempts ∧ (b.probe net).elapsed = d.elapsed ∧
      Dial.Accounted net b.address b.timeout d :=
  ⟨probe_result h, probe_attempts h, probe_elapsed h, Dial.run_accounted net b.address b.timeout⟩

/-- Two of three targets refuse, and by then the limit is reached. -/
theorem probe_accounted_of_late :
    ∃ (b : Relay) (net : Network), net.clockOverflows b.timeout = false ∧
      Dial.Resolves net b.address b.timeout
        [⟨.v4 #v[10, 0, 0, 1], 80, 0⟩, ⟨.v4 #v[10, 0, 0, 2], 80, 0⟩, ⟨.v4 #v[10, 0, 0, 3], 80, 0⟩]
        20 ∧
      (b.probe net).attempts = [⟨.v4 #v[10, 0, 0, 1], 80, 0⟩, ⟨.v4 #v[10, 0, 0, 2], 80, 0⟩] ∧
      (b.probe net).result = .ok (.error ⟨"relay:80", .timeout ⟨100⟩⟩) := by
  let b : Relay := ⟨"relay:80", ⟨100⟩, .create 2 3⟩
  let net : Network :=
    { names :=
        [("relay", ⟨.ok [.v4 #v[10, 0, 0, 1], .v4 #v[10, 0, 0, 2], .v4 #v[10, 0, 0, 3]], ⟨20⟩⟩)]
      sockets := [(⟨.v4 #v[10, 0, 0, 1], 80, 0⟩, ⟨some .connectionRefused, ⟨40⟩⟩),
        (⟨.v4 #v[10, 0, 0, 2], 80, 0⟩, ⟨some .connectionReset, ⟨50⟩⟩)] }
  have hb : net.clockOverflows b.timeout = false := by decide
  obtain ⟨hr, ha, -, hd⟩ := probe_accounted b net hb
  have hres : Dial.Resolves net b.address b.timeout
      [⟨.v4 #v[10, 0, 0, 1], 80, 0⟩, ⟨.v4 #v[10, 0, 0, 2], 80, 0⟩, ⟨.v4 #v[10, 0, 0, 3], 80, 0⟩]
      20 := by
    unfold Dial.Resolves
    cbv
  have hat : (Dial.run net b.address b.timeout).attempts =
      [⟨.v4 #v[10, 0, 0, 1], 80, 0⟩, ⟨.v4 #v[10, 0, 0, 2], 80, 0⟩] := by
    rw [Dial.run_eq, hres]
    decide
  refine ⟨b, net, hb, hres, ha.trans hat, ?_⟩
  have hne : (Dial.run net b.address b.timeout).result ≠ .ok () := by
    rw [Ne, hd.ok_iff, hat]
    rintro ⟨p, hp, hn⟩
    cases hp
    exact absurd hn (by decide)
  have hto : (Dial.run net b.address b.timeout).result = .error (.timeout ⟨100⟩) := by
    refine (hd.timeout_iff hne _).mpr ⟨rfl, .inr ⟨_, _, hres, .inl ?_⟩⟩
    rw [hat]
    decide
  rw [hr, hto]
  rfl

end Relay
end RelayRoster
