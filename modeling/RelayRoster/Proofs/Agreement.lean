import Mathlib
import RelayRoster.Proofs.Dialling
import RelayRoster.Proofs.Faults
import RelayRoster.Proofs.Literal

namespace RelayRoster
open Text

namespace Literal

theorem toNat_of_isDigitOf_sixteen {c : Char} (h : isDigitOf 16 c = true) :
    48 ≤ c.toNat ∧ c.toNat ≤ 102 := by
  unfold isDigitOf digit? at h
  dsimp only at h
  by_cases hd : c.isDigit = true
  · have hn := toNat_of_isDigit hd
    omega
  · rw [if_neg hd] at h
    by_cases hl : 'a' ≤ c ∧ c ≤ 'f'
    · have h₁ : 97 ≤ c.toNat := toNat_le_of_le hl.1
      have h₂ : c.toNat ≤ 102 := toNat_le_of_le hl.2
      omega
    · rw [if_neg hl] at h
      by_cases hu : 'A' ≤ c ∧ c ≤ 'F'
      · have h₁ : 65 ≤ c.toNat := toNat_le_of_le hu.1
        have h₂ : c.toNat ≤ 70 := toNat_le_of_le hu.2
        omega
      · simp [if_neg hu] at h

theorem isBlank_eq_false {c : Char} (h : 33 ≤ c.toNat ∧ c.toNat ≤ 126) : isBlank c = false := by
  unfold isBlank
  simp only [Bool.or_eq_false_iff, Bool.and_eq_false_iff, decide_eq_false_iff_not,
    List.contains_eq_mem, List.mem_cons, List.not_mem_nil, or_false]
  omega

theorem isBlank_of_isGrouped {c : Char} (h : isGrouped c = true) : isBlank c = false := by
  unfold isGrouped at h
  simp only [Bool.or_eq_true, decide_eq_true_eq] at h
  rcases h with (h | rfl) | rfl
  · have hn := toNat_of_isDigitOf_sixteen h
    exact isBlank_eq_false (by omega)
  · decide
  · decide

theorem isBlank_of_mem_scope {z : List Char} {i : UInt32} (h : WrittenScope z i) :
    ∀ c ∈ z, isBlank c = false := by
  rcases h with ⟨rfl, -⟩ | ⟨ds, rfl, hd⟩
  · simp
  · refine List.forall_mem_cons.mpr ⟨by decide, fun c hc => ?_⟩
    have hn := toNat_of_isDigit ((decimalBelow?_eq_some_iff.mp hd).2.1 c hc)
    exact isBlank_eq_false (by omega)

end Literal

namespace HostPort

/-- A port without a sign. -/
theorem port?_of_decimal {ds : List Char} {n : UInt16} (h : decimalBelow? 65536 ds = some n.toNat) :
    port? ds = some n := by
  obtain ⟨hne, hd, hv, -⟩ := decimalBelow?_eq_some_iff.mp h
  exact port?_eq_some_iff.mpr ⟨ds, .inl rfl, hne, hd, hv⟩

/-- A literal passes the check exactly if its port is not zero. -/
theorem wellFormed_of_literal {s : String} {a : SocketAddress}
    (h : SocketAddress.ofText? s = some a) : wellFormed s = true ↔ a.port ≠ 0 := by
  -- Octets have no colon and open no bracket; groups stand in brackets, and so may have colons.
  rcases SocketAddress.ofText?_eq_some_iff.mp h with
    ⟨ip, o, ds, hs, hip, hd, -⟩ | ⟨ip, g, z, ds, hs, hip, hz, hd, -⟩
  · have hc := Literal.octets_confined.forall_mem hip
    have hne : ip ≠ [] := by
      rintro rfl
      cases hip
    have hbracket : ip.head? ≠ some '[' := fun he =>
      absurd (hc '[' (List.mem_of_head? he)) (by decide)
    have hcolon : ':' ∉ ip := fun hm => absurd (hc ':' hm) (by decide)
    have hblank : ∀ c ∈ ip, isBlank c = false := fun c hm =>
      Literal.isBlank_of_isGrouped (Literal.isGrouped_of_isPointed (hc c hm))
    rw [wellFormed_of_parts hs (port?_of_decimal hd)
      (bareHost?_eq_some_iff.mpr (.inr ⟨hbracket, hcolon, rfl⟩))]
    exact and_iff_left ⟨hne, hblank⟩
  · have hc := Literal.groups_confined.forall_mem hip
    have hne : ip ++ z ≠ [] := by
      intro he
      obtain ⟨rfl, -⟩ := List.append_eq_nil_iff.mp he
      cases hip
    have hblank : ∀ c ∈ ip ++ z, isBlank c = false := List.forall_mem_append.mpr
      ⟨fun c hm => Literal.isBlank_of_isGrouped (hc c hm), Literal.isBlank_of_mem_scope hz⟩
    have hs' : s.toList = ('[' :: (ip ++ z) ++ [']']) ++ ':' :: ds := by
      rw [hs]
      simp
    rw [wellFormed_of_parts hs' (port?_of_decimal hd) (bareHost?_eq_some_iff.mpr (.inl rfl))]
    exact and_iff_left ⟨hne, hblank⟩

end HostPort

namespace Dial

/-- An address with a port is looked up by its host. -/
theorem lookup_of_parts {s : String} {host port : List Char} {n : UInt16}
    (hs : s.toList = host ++ ':' :: port) (hp : HostPort.port? port = some n) (net : Network) :
    lookup net s =
      if host.contains '\x00' then ⟨.error .nulByte, ⟨0⟩⟩
      else match (net.lookup (String.ofList host)).answer with
        | .ok ips => ⟨.ok (ips.map (⟨·, n, 0⟩)), (net.lookup (String.ofList host)).delay⟩
        | .error e => ⟨.error (.resolver e), (net.lookup (String.ofList host)).delay⟩ := by
  unfold lookup
  rw [hs, HostPort.splitLast?_append (HostPort.notMem_colon_of_port? hp)]
  dsimp only
  rewrite [hp]
  rfl

theorem lookup_error_of_wellFormed {s : String} (h : HostPort.wellFormed s = true) {net : Network}
    {f : LookupFailure} (hf : (lookup net s).answer = .error f) :
    f = .nulByte ∨ ∃ e, f = .resolver e := by
  obtain ⟨host, port, n, b, hs, hp, -⟩ := HostPort.exists_parts_of_wellFormed h
  rw [lookup_of_parts hs hp] at hf
  split at hf
  · cases hf
    exact .inl rfl
  · split at hf
    · cases hf
    · cases hf
      exact .inr ⟨_, rfl⟩

/-- Why a probe of a well-formed address may find nothing to connect to. -/
theorem lookup_failure_of_wellFormed {s : String} (h : HostPort.wellFormed s = true) {net : Network}
    {limit : Duration} {f : LookupFailure} (hf : (run net s limit).result = .error (.lookup f)) :
    f = .noAddresses ∨ f = .nulByte ∨ ∃ e, f = .resolver e := by
  rcases ((run_accounted net s limit).lookup_iff f).mp hf with ⟨delay, hr⟩ | ⟨-, hn⟩
  · right
    apply lookup_error_of_wellFormed h
    unfold resolved? at hr
    split at hr
    · cases hr
    · split at hr
      next => rw [Option.some.inj hr]
      next => cases hr
  · exact .inl hn

end Dial

theorem Relay.result_of_failure {b : Relay} {net : Network} {f : ProbeFailure}
    (h : (b.probe net).result = .ok (.error f)) :
    (Dial.run net b.address b.timeout).result = .error f.cause := by
  unfold probe at h
  split at h
  · cases h
  · dsimp only at h
    cases hr : (Dial.run net b.address b.timeout).result with
    | ok _ => rw [hr] at h; cases h
    | error cause => rw [hr] at h; cases h; rfl

/-- The check and the probe agree on what an address is. The check accepts just what is written as a
host and a port; of the literals these are all that have a port other than zero; and whatever it
accepts, no probe fails for want of a colon or a port. -/
theorem check_agrees_with_probe (s : String) :
    (HostPort.wellFormed s = true ↔ HostPort.Written s.toList) ∧
      (∀ a, SocketAddress.ofText? s = some a → (HostPort.wellFormed s = true ↔ a.port ≠ 0)) ∧
      (HostPort.wellFormed s = true →
        ∀ (b : Relay) (net : Network) (f : ProbeFailure) (why : LookupFailure),
          b.address = s → (b.probe net).result = .ok (.error f) → f.cause = .lookup why →
            why.text ≠ "invalid socket address" ∧ why.text ≠ "invalid port value") := by
  refine ⟨HostPort.wellFormed_iff_written, fun a => HostPort.wellFormed_of_literal, ?_⟩
  rintro hw b net f why rfl hb hf
  have hr := Relay.result_of_failure hb
  rw [hf] at hr
  rcases Dial.lookup_failure_of_wellFormed hw hr with rfl | rfl | ⟨e, rfl⟩
  · decide
  · decide
  · cases e <;> decide

/-- An address with the number of its interface, and a port with a zero in front. -/
theorem check_agrees_with_probe_of_scope :
    ∃ a, SocketAddress.ofText? "[fe80::1%2]:080" = some a ∧ a.port ≠ 0 ∧
      HostPort.wellFormed "[fe80::1%2]:080" = true ∧
      HostPort.Written "[fe80::1%2]:080".toList ∧
      ∀ (net : Network) (f : ProbeFailure) (why : LookupFailure),
        ((Relay.mk "[fe80::1%2]:080" ⟨1⟩ (.create 2 3)).probe net).result = .ok (.error f) →
          f.cause = .lookup why → why.text ≠ "invalid port value" := by
  obtain ⟨hwritten, hliteral, hprobe⟩ := check_agrees_with_probe "[fe80::1%2]:080"
  have ha : SocketAddress.ofText? "[fe80::1%2]:080" =
      some ⟨.v6 #v[0xfe80, 0, 0, 0, 0, 0, 0, 1], 80, 2⟩ := by cbv
  have hw := (hliteral _ ha).mpr (by decide)
  refine ⟨_, ha, by decide, hw, hwritten.mp hw, fun net f why hf hc => ?_⟩
  exact (hprobe hw _ net f why rfl hf hc).2

namespace Literal

/-- A version 6 address, with the number of an interface behind a percent sign or without one. -/
def WrittenV6 (inner : List Char) : Prop :=
  ∃ ip g z, inner = ip ++ z ∧ Ip.ofText? (String.ofList ip) = some (.v6 g) ∧
    (z = [] ∨ ∃ ds, z = '%' :: ds ∧ ds ≠ [] ∧ (∀ d ∈ ds, d.isDigit = true) ∧
      decimalValue ds < 4294967296)

theorem groups?_of_octets? {s : List Char} {p : Vector UInt8 4 × List Char}
    (h : octets? s = some p) : groups? s = none := by
  obtain ⟨o, r⟩ := p
  have hg : groups 8 true s = ([group o[0] o[1], group o[2] o[3]], true, r) := by
    unfold groups separated?
    simp [h]
  unfold groups?
  rw [hg]
  rfl

theorem ofText?_eq_v6_iff {ip : List Char} {g : Vector UInt16 8} :
    Ip.ofText? (String.ofList ip) = some (.v6 g) ↔ groups? ip = some (g, []) := by
  unfold Ip.ofText?
  rw [whole_eq_some_iff, String.toList_ofList]
  cases ho : octets? ip with
  | some p =>
    rw [groups?_of_octets? ho]
    simp
  | none => simp [Option.map_eq_some_iff]

theorem exists_scope_iff {z : List Char} :
    (∃ i, WrittenScope z i) ↔ z = [] ∨ ∃ ds, z = '%' :: ds ∧ ds ≠ [] ∧
      (∀ d ∈ ds, d.isDigit = true) ∧ decimalValue ds < 4294967296 := by
  unfold WrittenScope
  simp only [decimalBelow?_eq_some_iff]
  constructor
  · rintro ⟨i, ⟨rfl, -⟩ | ⟨ds, rfl, hne, hd, hv, hlt⟩⟩
    · exact .inl rfl
    · exact .inr ⟨ds, rfl, hne, hd, hv ▸ hlt⟩
  · rintro (rfl | ⟨ds, rfl, hne, hd, hlt⟩)
    · exact ⟨0, .inl ⟨rfl, rfl⟩⟩
    · have hv := UInt32.toNat_ofNat_of_lt' hlt
      exact ⟨UInt32.ofNat (decimalValue ds), .inr ⟨ds, rfl, hne, hd, hv.symm, hv.symm ▸ hlt⟩⟩

/-- Which texts in brackets, with a port behind them, are literals. -/
theorem isSome_ofText?_iff {s : String} {inner port : List Char} {n : UInt16}
    (hs : s.toList = ('[' :: inner ++ [']']) ++ ':' :: port)
    (hp : HostPort.port? port = some n) :
    (SocketAddress.ofText? s).isSome = true ↔ WrittenV6 inner ∧ port.head? ≠ some '+' := by
  have hcolon := HostPort.notMem_colon_of_port? hp
  rw [Option.isSome_iff_exists]
  constructor
  · rintro ⟨a, ha⟩
    rcases SocketAddress.ofText?_eq_some_iff.mp ha with
      ⟨ip, o, ds, hs', hip, -⟩ | ⟨ip, g, z, ds, hs', hip, hz, hd, -⟩
    · -- Octets open no bracket.
      exfalso
      rw [hs'] at hs
      cases ip with
      | nil => cases hip
      | cons c ip =>
        obtain rfl : c = '[' := List.head_eq_of_cons_eq hs
        exact absurd (octets_confined.forall_mem hip '[' List.mem_cons_self) (by decide)
    · have hds := (decimalBelow?_eq_some_iff.mp hd).2.1
      have hcolon' : ':' ∉ ds := fun hm => absurd (hds ':' hm) (by decide)
      have hs'' : s.toList = ('[' :: (ip ++ z) ++ [']']) ++ ':' :: ds := by
        rw [hs']
        simp
      -- The last colon of a text is in one place.
      have he := (HostPort.splitLast?_append hcolon ('[' :: inner ++ [']'])).symm.trans
        ((congrArg _ (hs.symm.trans hs'')).trans (HostPort.splitLast?_append hcolon' _))
      simp only [Option.some.injEq, Prod.mk.injEq, List.append_cancel_right_eq,
        List.cons.injEq, true_and] at he
      obtain ⟨rfl, rfl⟩ := he
      refine ⟨⟨ip, g, z, rfl, ofText?_eq_v6_iff.mpr hip, exists_scope_iff.mp ⟨_, hz⟩⟩, fun hh => ?_⟩
      exact absurd (hds '+' (List.mem_of_head? hh)) (by decide)
  · rintro ⟨⟨ip, g, z, rfl, hip, hz⟩, hh⟩
    obtain ⟨i, hz⟩ := exists_scope_iff.mpr hz
    have hd : decimalBelow? 65536 port = some n.toNat := by
      rw [HostPort.port?_of_digits hh] at hp
      obtain ⟨m, hm, rfl⟩ := Option.map_eq_some_iff.mp hp
      rw [hm, UInt16.toNat_ofNat_of_lt' (decimalBelow?_eq_some_iff.mp hm).2.2.2]
    refine ⟨⟨.v6 g, n, i⟩, SocketAddress.ofText?_eq_some_iff.mpr (.inr ?_)⟩
    exact ⟨ip, g, z, port, by rw [hs]; simp, ofText?_eq_v6_iff.mp hip, hz, hd, rfl⟩

end Literal

/-- Whether a probe does the same whatever names the network knows: it looks up none. -/
def Dial.Nameless (s : String) (limit : Duration) : Prop :=
  ∀ net names, Dial.run { net with names } s limit = Dial.run net s limit

/-- What a probe makes of a lookup that answers in time. -/
theorem Dial.run_of_lookup {net : Network} {s : String} {limit : Duration}
    {found : Delayed (Except LookupFailure (List SocketAddress))}
    (hs : SocketAddress.ofText? s = none) (hf : lookup net s = found)
    (hl : found.delay.nanos < limit.nanos) :
    run net s limit = match found.answer with
      | .error failure => { result := .error (.lookup failure), elapsed := found.delay }
      | .ok targets => connectEach net limit none found.delay.nanos targets := by
  unfold run
  rw [hs]
  dsimp only
  rewrite [hf, if_neg (Nat.not_le.mpr hl)]
  rfl

/-- A probe of a literal looks up no name; of other addresses only those with a character that no
name may have are not looked up. -/
theorem Dial.nameless_iff {s : String} {host port : List Char} {n : UInt16}
    (hs : s.toList = host ++ ':' :: port) (hp : HostPort.port? port = some n) {limit : Duration}
    (hl : 0 < limit.nanos) :
    Nameless s limit ↔ (SocketAddress.ofText? s).isSome = true ∨ '\x00' ∈ host := by
  cases ht : SocketAddress.ofText? s with
  | some peer =>
    refine iff_of_true (fun net names => ?_) (.inl rfl)
    unfold run
    rw [ht]
    rfl
  | none =>
    rw [or_iff_right (by simp)]
    constructor
    · intro h
      by_contra hnul
      have hn : ¬ host.contains '\x00' = true := by simpa using hnul
      have hfound (net : Network) := (lookup_of_parts hs hp net).trans (if_neg hn)
      -- A name without addresses is not the same as one that does not exist.
      let net : Network := { names := [(String.ofList host, ⟨.ok [], ⟨0⟩⟩)] }
      have hknown : lookup net s = ⟨.ok [], ⟨0⟩⟩ := by
        rw [hfound]
        simp [net, Network.lookup]
      have hr : run net s limit = run {} s limit := h {} net.names
      rw [run_of_lookup ht hknown hl, run_of_lookup ht (hfound {}) hl] at hr
      cases congrArg Dial.result hr
    · intro hnul net names
      have hn : host.contains '\x00' = true := by simpa using hnul
      have hfound (net : Network) := (lookup_of_parts hs hp net).trans (if_pos hn)
      rw [run_of_lookup ht (hfound _) hl, run_of_lookup ht (hfound _) hl]

theorem Settings.wellFormed_of_accepted {s : Settings} (hs : s.accepted = true) {a : String}
    (ha : a ∈ s.endpoints) : HostPort.wellFormed a = true := by
  unfold accepted at hs
  rw [List.isEmpty_iff, faults_eq_violations, violations_eq_nil_iff] at hs
  exact (hs.addresses a ha).2

/-- Settings with nothing but a well-formed address are accepted. -/
theorem Settings.accepted_of_wellFormed {a : String} (h : HostPort.wellFormed a = true) :
    accepted { endpoints := [a] } = true := by
  have hne : a ≠ "" := by
    rintro rfl
    rw [not_wellFormed_empty] at h
    cases h
  unfold accepted
  rw [List.isEmpty_iff, faults_eq_violations, violations_eq_nil_iff]
  exact
    { addresses := List.forall_mem_singleton.mpr ⟨hne, h⟩
      distinct := List.nodup_singleton a
      interval := (by decide : ({} : HealthSettings).interval ≠ 0)
      timeout := (by decide : ({} : HealthSettings).timeout ≠ 0)
      unhealthyThreshold := (by decide : ({} : HealthSettings).unhealthyThreshold ≠ 0)
      healthyThreshold := (by decide : ({} : HealthSettings).healthyThreshold ≠ 0)
      level := (by decide : KnownLevel ({} : ReportSettings).logLevel)
      metrics := nofun }

/-- What stands in brackets in an accepted address need not be an address. The address is a literal
exactly if it is one of version 6, with or without an interface, and its port has no sign; and of
the others a probe looks up the host by name, unless no name may be so. -/
theorem bracketed_literal_iff {s : Settings} (hs : s.accepted = true) {a : String}
    (ha : a ∈ s.endpoints) (hb : a.toList.head? = some '[') :
    ∃ inner port, a.toList = '[' :: inner ++ ']' :: ':' :: port ∧
      ((SocketAddress.ofText? a).isSome = true ↔
        Literal.WrittenV6 inner ∧ port.head? ≠ some '+') ∧
      ∀ limit : Duration, 0 < limit.nanos →
        (Dial.Nameless a limit ↔ (SocketAddress.ofText? a).isSome = true ∨ '\x00' ∈ inner) := by
  have hw := Settings.wellFormed_of_accepted hs ha
  obtain ⟨host, port, n, inner, hsplit, hp, hhost⟩ := HostPort.exists_parts_of_wellFormed hw
  obtain ⟨-, hne, -⟩ := (HostPort.wellFormed_of_parts hsplit hp hhost).mp hw
  rcases HostPort.bareHost?_eq_some_iff.mp hhost with rfl | ⟨hh, -, rfl⟩
  · refine ⟨inner, port, by rw [hsplit]; simp, Literal.isSome_ofText?_iff hsplit hp,
      fun limit hl => ?_⟩
    rw [Dial.nameless_iff hsplit hp hl]
    simp
  · -- A host that opens no bracket is not what the address begins with.
    rw [hsplit] at hb
    cases inner with
    | nil => exact absurd rfl hne
    | cons c inner => exact absurd hb hh

/-- A port with a sign keeps an address in brackets from being a literal. -/
theorem bracketed_literal_iff_of_sign :
    ∃ s : Settings, s.accepted = true ∧ "[::1]:+80" ∈ s.endpoints ∧
      "[::1]:+80".toList.head? = some '[' ∧ SocketAddress.ofText? "[::1]:+80" = none ∧
      ¬ Dial.Nameless "[::1]:+80" ⟨1⟩ := by
  have ha := Settings.accepted_of_wellFormed (by decide : HostPort.wellFormed "[::1]:+80" = true)
  have hn : SocketAddress.ofText? "[::1]:+80" = none := by cbv
  obtain ⟨inner, port, he, -, hnames⟩ :=
    bracketed_literal_iff ha (List.mem_singleton_self "[::1]:+80") (by decide)
  refine ⟨_, ha, List.mem_singleton_self _, by decide, hn, ?_⟩
  rw [hnames ⟨1⟩ (by decide), hn]
  simp only [Option.isSome_none, Bool.false_eq_true, false_or]
  intro hnul
  have hmem : '\x00' ∈ "[::1]:+80".toList := by
    rw [he]
    simp [hnul]
  exact absurd hmem (by decide)

/-- A name in brackets is accepted, and a probe looks it up, brackets and all. -/
theorem bracketed_name_accepted :
    ∃ (s : Settings) (net : Network), s.accepted = true ∧ s.endpoints = ["[foo]:80"] ∧
      SocketAddress.ofText? "[foo]:80" = none ∧
      net.names.map (·.1) = ["[foo]"] ∧
      (Dial.run net "[foo]:80" ⟨1⟩).attempts = [⟨.v4 #v[10, 0, 0, 1], 80, 0⟩] ∧
      (Dial.run {} "[foo]:80" ⟨1⟩).result = .error (.lookup (.resolver .noName)) := by
  refine ⟨{ endpoints := ["[foo]:80"] },
    { names := [("[foo]", ⟨.ok [.v4 #v[10, 0, 0, 1]], ⟨0⟩⟩)] }, ?_, rfl, ?_, rfl, ?_, ?_⟩
  · exact Settings.accepted_of_wellFormed (by decide)
  · cbv
  · cbv
  · cbv

end RelayRoster
