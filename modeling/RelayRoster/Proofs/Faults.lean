import Mathlib.Data.List.Nodup
import RelayRoster.Settings.Load

namespace RelayRoster.Settings

def SameLetters (s t : String) : Prop := s.toList.map Char.toLower = t.toList.map Char.toLower

instance (s t : String) : Decidable (SameLetters s t) :=
  inferInstanceAs (Decidable (s.toList.map Char.toLower = t.toList.map Char.toLower))

def KnownLevel (level : String) : Prop :=
  ∃ l ∈ ["trace", "debug", "info", "warn", "error"], SameLetters level l

instance (level : String) : Decidable (KnownLevel level) :=
  inferInstanceAs (Decidable (∃ l ∈ ["trace", "debug", "info", "warn", "error"], SameLetters level l))

def ReachableMetrics (r : ReportSettings) : Prop :=
  r.metricsEnabled = true → (SocketAddress.ofText? r.metricsAddress).isSome = true

instance (r : ReportSettings) : Decidable (ReachableMetrics r) :=
  inferInstanceAs (Decidable (_ → _))

structure Valid (s : Settings) : Prop where
  addresses : ∀ a ∈ s.endpoints, a ≠ "" ∧ HostPort.wellFormed a = true
  distinct : s.endpoints.Nodup
  interval : s.health.interval ≠ 0
  timeout : s.health.timeout ≠ 0
  unhealthyThreshold : s.health.unhealthyThreshold ≠ 0
  healthyThreshold : s.health.healthyThreshold ≠ 0
  level : KnownLevel s.report.logLevel
  metrics : ReachableMetrics s.report

def faultAt? (as : List String) (i : Nat) (a : String) : Option Fault :=
  if a = "" then some (.emptyAddress i)
  else if HostPort.wellFormed a = false then some (.malformedAddress a)
  else if a ∈ as.take i then some (.repeatedAddress a)
  else none

/-- Every violation: one for each address at fault, in order, then one for each field at fault. -/
def violations (s : Settings) : List Fault :=
  (s.endpoints.zipIdx.filterMap fun p => faultAt? s.endpoints p.2 p.1) ++
    (if s.health.interval = 0 then [.zero "interval_secs"] else []) ++
    (if s.health.timeout = 0 then [.zero "timeout_secs"] else []) ++
    (if s.health.unhealthyThreshold = 0 then [.zero "unhealthy_threshold"] else []) ++
    (if s.health.healthyThreshold = 0 then [.zero "healthy_threshold"] else []) ++
    (if KnownLevel s.report.logLevel then [] else [.unknownLogLevel s.report.logLevel]) ++
    (if ReachableMetrics s.report then [] else [.malformedMetricsAddress s.report.metricsAddress])

theorem not_wellFormed_empty : HostPort.wellFormed "" = false := by decide

theorem faultAt?_eq_none_iff {as : List String} {i : Nat} {a : String} :
    faultAt? as i a = none ↔ a ≠ "" ∧ HostPort.wellFormed a = true ∧ a ∉ as.take i := by
  unfold faultAt?
  split_ifs <;> simp_all

/-- Whether an address is at fault depends on those before it only, and of these just the
well-formed ones matter. -/
theorem endpointFaults_cons {before noted : List String} (a : String) (rest : List String)
    (hn : ∀ x, HostPort.wellFormed x = true → (x ∈ noted ↔ x ∈ before)) :
    endpointFaults before.length noted (a :: rest) =
      (faultAt? (before ++ a :: rest) before.length a).toList ++
        endpointFaults (before.length + 1)
          (if (faultAt? (before ++ a :: rest) before.length a).isNone then a :: noted else noted)
          rest := by
  have ht : (before ++ a :: rest).take before.length = before := List.take_left
  unfold faultAt?
  rw [ht]
  conv_lhs => unfold endpointFaults
  by_cases he : a = ""
  · simp [he]
  cases hw : HostPort.wellFormed a with
  | false => simp [he]
  | true =>
    have hm := hn a hw
    by_cases hb : a ∈ before
    · simp [he, hb, hm.mpr hb]
    · simp [he, hb, mt hm.mp hb]

theorem endpointFaults_eq (before noted rest : List String)
    (hn : ∀ x, HostPort.wellFormed x = true → (x ∈ noted ↔ x ∈ before)) :
    endpointFaults before.length noted rest =
      (rest.zipIdx before.length).filterMap fun p => faultAt? (before ++ rest) p.2 p.1 := by
  induction rest generalizing before noted with
  | nil => rfl
  | cons a rest ih =>
    have ht : (before ++ a :: rest).take before.length = before := List.take_left
    -- One address on, what came before has grown by one, which is noted unless it is at fault.
    have hnoted : ∀ x, HostPort.wellFormed x = true →
        (x ∈ (if (faultAt? (before ++ a :: rest) before.length a).isNone then a :: noted else noted) ↔
          x ∈ before ++ [a]) := by
      intro x hx
      rw [List.mem_append, List.mem_singleton]
      cases hf : faultAt? (before ++ a :: rest) before.length a with
      | none => simp [hn x hx, or_comm]
      | some f =>
        -- A well-formed address that is at fault was noted already.
        have hxa : x = a → x ∈ before := by
          rintro rfl
          by_contra hb
          have hne : x ≠ "" := by
            rintro rfl
            rw [not_wellFormed_empty] at hx
            cases hx
          rw [faultAt?_eq_none_iff.mpr ⟨hne, hx, by rwa [ht]⟩] at hf
          cases hf
        simp only [Option.isNone_some, Bool.false_eq_true, if_false, hn x hx]
        exact ⟨Or.inl, fun h => h.elim id hxa⟩
    have hrest := ih (before ++ [a]) _ hnoted
    rw [List.length_append, List.length_singleton, List.append_assoc, List.singleton_append] at hrest
    rw [endpointFaults_cons a rest hn, hrest, List.zipIdx_cons, List.filterMap_cons]
    cases faultAt? (before ++ a :: rest) before.length a <;> rfl

theorem contains_logLevels (level : String) :
    logLevels.contains (level.map Char.toLower) = true ↔ KnownLevel level := by
  have hl : ∀ l ∈ logLevels, l.toList.map Char.toLower = l.toList := by decide
  rw [List.contains_iff_mem]
  constructor
  · intro h
    refine ⟨_, h, ?_⟩
    unfold SameLetters
    rw [hl _ h, String.toList_map]
  · rintro ⟨l, hm, hs⟩
    have he : level.map Char.toLower = l := by
      apply String.toList_inj.mp
      rw [String.toList_map, hs, hl l hm]
    rwa [he]

theorem healthFaults_eq (h : HealthSettings) :
    healthFaults h =
      (if h.interval = 0 then [.zero "interval_secs"] else []) ++
      (if h.timeout = 0 then [.zero "timeout_secs"] else []) ++
      (if h.unhealthyThreshold = 0 then [.zero "unhealthy_threshold"] else []) ++
      (if h.healthyThreshold = 0 then [.zero "healthy_threshold"] else []) := by
  unfold healthFaults
  simp only [List.filterMap_cons, List.filterMap_nil, beq_iff_eq]
  split_ifs <;> rfl

theorem levelFaults_eq (r : ReportSettings) :
    levelFaults r = if KnownLevel r.logLevel then [] else [.unknownLogLevel r.logLevel] :=
  if_congr (contains_logLevels r.logLevel) rfl rfl

theorem metricsFaults_eq (r : ReportSettings) :
    metricsFaults r =
      if ReachableMetrics r then [] else [.malformedMetricsAddress r.metricsAddress] := by
  have hc : (r.metricsEnabled && (SocketAddress.ofText? r.metricsAddress).isNone) = true ↔
      ¬ ReachableMetrics r := by
    unfold ReachableMetrics
    simp
  unfold metricsFaults
  rw [if_congr hc rfl rfl, ite_not]

theorem faults_eq_violations (s : Settings) : s.faults = s.violations := by
  have he := endpointFaults_eq [] [] s.endpoints fun _ _ => Iff.rfl
  unfold faults violations
  rw [healthFaults_eq, levelFaults_eq, metricsFaults_eq]
  simp only [List.append_assoc]
  exact congrArg (· ++ _) he

/-- A malformed address is at fault each time, a well-formed one each time but the first. -/
example : violations { endpoints := ["a:1", "", "a", "a:1", "a", "a:1"] } =
    [.emptyAddress 1, .malformedAddress "a", .repeatedAddress "a:1", .malformedAddress "a",
      .repeatedAddress "a:1"] := by decide

/-- No address of a list is at fault exactly if all are well-formed and no two are equal. -/
theorem filterMap_faultAt?_eq_nil_iff (as : List String) :
    (as.zipIdx.filterMap fun p => faultAt? as p.2 p.1) = [] ↔
      (∀ a ∈ as, a ≠ "" ∧ HostPort.wellFormed a = true) ∧ as.Nodup := by
  have hz : (as.zipIdx.filterMap fun p => faultAt? as p.2 p.1) = [] ↔
      ∀ i a, as[i]? = some a → a ≠ "" ∧ HostPort.wellFormed a = true ∧ a ∉ as.take i := by
    rw [List.filterMap_eq_nil_iff]
    simp only [Prod.forall, List.mem_zipIdx_iff_getElem?, faultAt?_eq_none_iff]
    exact ⟨fun h i a => h a i, fun h a i => h i a⟩
  -- An address that is listed before is a repetition, and there is none where all are different.
  rw [hz]
  constructor
  · intro h
    refine ⟨fun a ha => ?_, ?_⟩
    · obtain ⟨i, hi⟩ := List.mem_iff_getElem?.mp ha
      exact ⟨(h i a hi).1, (h i a hi).2.1⟩
    · rw [List.nodup_iff_getElem?_ne_getElem?]
      intro i j hij hj heq
      rw [List.getElem?_eq_getElem hj] at heq
      apply (h j as[j] (List.getElem?_eq_getElem hj)).2.2
      rw [List.mem_iff_getElem?]
      exact ⟨i, by rw [List.getElem?_take_of_lt hij, heq]⟩
  · rintro ⟨ha, hd⟩ i a hi
    obtain ⟨hne, hw⟩ := ha a (List.mem_of_getElem? hi)
    refine ⟨hne, hw, fun hm => ?_⟩
    obtain ⟨j, hj⟩ := List.mem_iff_getElem?.mp hm
    rw [List.getElem?_take] at hj
    split at hj
    next hji =>
      obtain ⟨hlt, -⟩ := List.getElem?_eq_some_iff.mp hi
      exact (List.nodup_iff_getElem?_ne_getElem?.mp hd) j i hji hlt (hj.trans hi.symm)
    next => cases hj

theorem violations_eq_nil_iff (s : Settings) : s.violations = [] ↔ s.Valid := by
  unfold violations
  simp only [List.append_eq_nil_iff, filterMap_faultAt?_eq_nil_iff]
  constructor
  · rintro ⟨⟨⟨⟨⟨⟨⟨ha, hd⟩, hi⟩, ht⟩, hu⟩, hh⟩, hl⟩, hm⟩
    exact ⟨ha, hd, by simpa using hi, by simpa using ht, by simpa using hu, by simpa using hh,
      by simpa using hl, by simpa using hm⟩
  · intro h
    refine ⟨⟨⟨⟨⟨⟨⟨h.addresses, h.distinct⟩, ?_⟩, ?_⟩, ?_⟩, ?_⟩, ?_⟩, ?_⟩
    · exact if_neg h.interval
    · exact if_neg h.timeout
    · exact if_neg h.unhealthyThreshold
    · exact if_neg h.healthyThreshold
    · exact if_pos h.level
    · exact if_pos h.metrics

theorem checked_eq_ok_iff {s s' : Settings} : s.checked = .ok s' ↔ s.Valid ∧ s' = s := by
  unfold checked
  rw [faults_eq_violations, ← violations_eq_nil_iff]
  cases s.violations with
  | nil => simp [eq_comm]
  | cons f fs => simp

/-- Settings are accepted exactly if they are valid. Otherwise every violation is reported, and
nothing else. -/
theorem checked_eq_iff (s : Settings) :
    (s.accepted = true ↔ s.Valid) ∧ s.faults = s.violations ∧
      (∀ s', s.checked = .ok s' ↔ s.Valid ∧ s' = s) ∧
      ∀ e, s.checked = .error e ↔ ¬ s.Valid ∧ e = .rejected s.violations := by
  have hf := faults_eq_violations s
  have hv := violations_eq_nil_iff s
  refine ⟨?_, hf, fun s' => checked_eq_ok_iff, fun e => ?_⟩
  · unfold accepted
    rw [List.isEmpty_iff, hf, hv]
  · unfold checked
    rw [hf, ← hv]
    cases s.violations with
    | nil => simp
    | cons f fs => simp [eq_comm]

end RelayRoster.Settings
