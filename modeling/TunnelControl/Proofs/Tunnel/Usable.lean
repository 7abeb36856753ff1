import TunnelControl.Proofs.Net.Addresses
import TunnelControl.Proofs.Text.Quoted
import TunnelControl.Tunnel.Config

/-!
# The configurations that are accepted

A configuration is checked against what makes one usable, and the first thing that it lacks is reported.

* `TunnelConfig.Usable`       a name, an endpoint, addresses of DNS servers and an MTU that are as they should be;
* `TunnelConfig.FirstFault`   the first of them that is not, in this order, with all before it as they should be;
* `ConfigFault.Told`          what a message tells of a fault;
* `TunnelConfig.usable_or_first_fault`  the usable ones are accepted, and the others refused with their first fault.
-/

namespace TunnelControl

/-! ## the grammar -/

/-- a text with a character in it that is not blank -/
def NameText (cs : List Char) : Prop := ∃ c ∈ cs, isBlank c = false

/-- the digits of a number from 1 to 65535, behind any number of zeros, and behind a plus sign perhaps -/
def PortText (cs : List Char) : Prop :=
  ∃ (sign : List Char) (zeros n : Nat), (sign = [] ∨ sign = ['+']) ∧ (1 ≤ n ∧ n ≤ 65535) ∧
    cs = sign ++ List.replicate zeros '0' ++ Nat.toDigits 10 n

/-- a host that is not empty and a port, with a colon between them that is the last one -/
def EndpointText (cs : List Char) : Prop :=
  ∃ host port, cs = host ++ ':' :: port ∧ host ≠ [] ∧ ':' ∉ port ∧ PortText port

def UsableMtu (mtu : UInt32) : Prop := 576 ≤ mtu.toNat ∧ mtu.toNat ≤ 9000

/-- a configuration that a tunnel can be started with -/
structure TunnelConfig.Usable (c : TunnelConfig) : Prop where
  name : NameText c.name.toList
  endpoint : EndpointText c.endpoint.toList
  dnsServers : ∀ server ∈ c.dnsServers, AddressText server.toList
  mtu : ∀ value, c.mtu = some value → UsableMtu value

/-- the first thing that makes a configuration useless -/
inductive TunnelConfig.FirstFault (c : TunnelConfig) : ConfigFault → Prop
  | emptyName (hname : ¬NameText c.name.toList) : FirstFault c .emptyName
  | endpoint (hname : NameText c.name.toList) (hendpoint : ¬EndpointText c.endpoint.toList) :
      FirstFault c (.endpoint c.endpoint)
  | dnsServer (hname : NameText c.name.toList) (hendpoint : EndpointText c.endpoint.toList)
      {before after : List String} {server : String} (hservers : c.dnsServers = before ++ server :: after)
      (hbefore : ∀ earlier ∈ before, AddressText earlier.toList) (hserver : ¬AddressText server.toList) :
      FirstFault c (.dnsServer server)
  | mtu (hname : NameText c.name.toList) (hendpoint : EndpointText c.endpoint.toList)
      (hservers : ∀ server ∈ c.dnsServers, AddressText server.toList) {value : UInt32} (hvalue : c.mtu = some value)
      (hmtu : ¬UsableMtu value) : FirstFault c (.mtu value)

/-- what a message tells of a fault: the text is quoted, and the number is given in its digits -/
def ConfigFault.Told (message : List Char) : ConfigFault → Prop
  | .emptyName => message = "tunnel name cannot be empty".toList
  | .endpoint text =>
    ∃ quoted, message = "endpoint must be host:port, got ".toList ++ '"' :: quoted ∧ Quotation quoted text.toList []
  | .dnsServer text =>
    ∃ quoted, message = "DNS server ".toList ++ '"' :: quoted ∧
      Quotation quoted text.toList " is not an IP address".toList
  | .mtu value => message = "MTU ".toList ++ Nat.toDigits 10 value.toNat ++ " outside 576..=9000".toList

/-! ## messages -/

theorem toList_toString (value : UInt32) : (toString value).toList = Nat.toDigits 10 value.toNat :=
  String.toList_ofList

/-- **A message tells of the fault.** -/
theorem ConfigFault.told_message (fault : ConfigFault) : fault.Told fault.message.toList := by
  cases fault with
  | emptyName => rfl
  | endpoint text =>
    obtain ⟨quoted, hquoted, htext⟩ := quotation_quoteText text []
    refine ⟨quoted, ?_, htext⟩
    show (toString "endpoint must be host:port, got " ++ toString (quoteText text)).toList = _
    rw [← hquoted, List.append_nil, String.toList_append]
    rfl
  | dnsServer text =>
    obtain ⟨quoted, hquoted, htext⟩ := quotation_quoteText text " is not an IP address".toList
    refine ⟨quoted, ?_, htext⟩
    show (toString "DNS server " ++ toString (quoteText text) ++ toString " is not an IP address").toList = _
    rw [← hquoted, String.toList_append, String.toList_append, List.append_assoc]
    rfl
  | mtu value =>
    show (toString "MTU " ++ toString value ++ toString " outside " ++ toString mtuMin ++ toString "..="
      ++ toString mtuMax).toList = "MTU ".toList ++ Nat.toDigits 10 value.toNat ++ " outside 576..=9000".toList
    simp only [String.toList_append, toList_toString, List.append_assoc]
    rfl

/-! ## the checks one by one -/

theorem isEndpoint_iff (cs : List Char) : isEndpoint cs = true ↔ EndpointText cs := by
  constructor
  · intro h
    unfold isEndpoint at h
    split at h
    · cases h
    · rename_i host port hcut
      obtain ⟨hcs, hport⟩ := cutAtLast_eq_some_iff.mp hcut
      rw [Bool.and_eq_true, decide_eq_true_eq] at h
      obtain ⟨hhost, h⟩ := h
      split at h
      · cases h
      · rename_i n hn
        obtain ⟨hlimit, sign, zeros, hsign, hdigits⟩ := readNumber?_eq_some_iff.mp hn
        have hpos : 1 ≤ n := Nat.pos_of_ne_zero (of_decide_eq_true h)
        exact ⟨host, port, hcs, hhost, hport, sign, zeros, n, hsign, ⟨hpos, hlimit⟩, hdigits⟩
  · rintro ⟨host, port, rfl, hhost, hport, sign, zeros, n, hsign, ⟨hpos, hlimit⟩, hdigits⟩
    have hn : readNumber? 65535 port = some n := readNumber?_eq_some_iff.mpr ⟨hlimit, sign, zeros, hsign, hdigits⟩
    rw [isEndpoint, cutAtLast_append hport]
    simp only [hn, Bool.and_eq_true, decide_eq_true_eq]
    exact ⟨hhost, Nat.ne_of_gt hpos⟩

theorem usableMtu_iff (value : UInt32) : (mtuMin ≤ value ∧ value ≤ mtuMax) ↔ UsableMtu value := by
  rw [UInt32.le_iff_toNat_le, UInt32.le_iff_toNat_le]
  rfl

/-- two checks in a row accept what both accept -/
theorem check_andThen_ok_iff {first rest : Except ConfigFault Unit} :
    (do first; rest) = .ok () ↔ first = .ok () ∧ rest = .ok () := by
  cases first with
  | error f => exact ⟨nofun, nofun⟩
  | ok u => exact ⟨fun h => ⟨rfl, h⟩, fun h => h.2⟩

/-- and fail with the first fault -/
theorem check_andThen_error_iff {first rest : Except ConfigFault Unit} {fault : ConfigFault} :
    (do first; rest) = .error fault ↔ first = .error fault ∨ first = .ok () ∧ rest = .error fault := by
  cases first with
  | error f =>
    refine ⟨.inl, ?_⟩
    rintro (h | ⟨⟨⟩, -⟩)
    exact h
  | ok u =>
    refine ⟨fun h => .inr ⟨rfl, h⟩, ?_⟩
    rintro (⟨⟨⟩⟩ | ⟨-, h⟩)
    exact h

namespace TunnelConfig

variable {c : TunnelConfig} {fault : ConfigFault}

theorem checkName_ok_iff : c.checkName = .ok () ↔ NameText c.name.toList := by
  unfold checkName NameText
  split
  · rename_i h
    refine ⟨nofun, ?_⟩
    rintro ⟨ch, hmem, hch⟩
    rw [List.all_eq_true.mp h ch hmem] at hch
    cases hch
  · rename_i h
    rw [List.all_eq_true] at h
    push Not at h
    obtain ⟨ch, hmem, hch⟩ := h
    exact ⟨fun _ => ⟨ch, hmem, Bool.eq_false_iff.mpr hch⟩, fun _ => rfl⟩

theorem checkName_error_iff : c.checkName = .error fault ↔ ¬NameText c.name.toList ∧ fault = .emptyName := by
  rw [← checkName_ok_iff]
  unfold checkName
  split
  · exact ⟨fun h => ⟨nofun, (Except.error.inj h).symm⟩, fun h => congrArg _ h.2.symm⟩
  · exact ⟨nofun, fun h => absurd rfl h.1⟩

theorem checkEndpoint_ok_iff : c.checkEndpoint = .ok () ↔ EndpointText c.endpoint.toList := by
  rw [← isEndpoint_iff]
  unfold checkEndpoint
  split
  · exact ⟨fun _ => ‹_›, fun _ => rfl⟩
  · exact ⟨nofun, fun h => absurd h ‹_›⟩

theorem checkEndpoint_error_iff :
    c.checkEndpoint = .error fault ↔ ¬EndpointText c.endpoint.toList ∧ fault = .endpoint c.endpoint := by
  rw [← isEndpoint_iff]
  unfold checkEndpoint
  split
  · exact ⟨nofun, fun h => absurd ‹_› h.1⟩
  · exact ⟨fun h => ⟨‹_›, (Except.error.inj h).symm⟩, fun h => congrArg _ h.2.symm⟩

theorem checkDnsServers_ok_iff : c.checkDnsServers = .ok () ↔ ∀ server ∈ c.dnsServers, AddressText server.toList := by
  simp only [← isAddress_iff]
  unfold checkDnsServers
  split
  · rename_i server hfind
    have hbad := List.find?_some hfind
    refine ⟨nofun, fun h => ?_⟩
    rw [h server (List.mem_of_find?_eq_some hfind)] at hbad
    cases hbad
  · rename_i hfind
    refine ⟨fun _ server hserver => ?_, fun _ => rfl⟩
    have hgood := List.find?_eq_none.mp hfind server hserver
    rwa [Bool.not_eq_true', Bool.not_eq_false] at hgood

/-- the first bad server in the order of the list -/
theorem checkDnsServers_error_iff :
    c.checkDnsServers = .error fault ↔ ∃ before server after, c.dnsServers = before ++ server :: after ∧
      (∀ earlier ∈ before, AddressText earlier.toList) ∧ ¬AddressText server.toList ∧ fault = .dnsServer server := by
  simp only [← isAddress_iff]
  unfold checkDnsServers
  constructor
  · intro h
    split at h
    · rename_i server hfind
      obtain ⟨hbad, before, after, hservers, hbefore⟩ := List.find?_eq_some_iff_append.mp hfind
      refine ⟨before, server, after, hservers, fun earlier hmem => ?_, ?_, (Except.error.inj h).symm⟩
      · have hgood := hbefore earlier hmem
        rwa [Bool.not_not] at hgood
      · rwa [Bool.not_eq_true', ← Bool.not_eq_true] at hbad
    · cases h
  · rintro ⟨before, server, after, hservers, hbefore, hserver, rfl⟩
    have hfind : c.dnsServers.find? (fun server => !isAddress server.toList) = some server := by
      refine List.find?_eq_some_iff_append.mpr ⟨?_, before, after, hservers, fun earlier hmem => ?_⟩
      · rwa [Bool.not_eq_true', ← Bool.not_eq_true]
      · rw [hbefore earlier hmem]
        rfl
    rw [hfind]

theorem checkMtu_ok_iff : c.checkMtu = .ok () ↔ ∀ value, c.mtu = some value → UsableMtu value := by
  simp only [← usableMtu_iff]
  unfold checkMtu
  cases c.mtu with
  | none => exact ⟨nofun, fun _ => rfl⟩
  | some value =>
    dsimp only
    split
    · rename_i h
      refine ⟨?_, fun _ => rfl⟩
      rintro - _ ⟨⟩
      exact h
    · rename_i h
      exact ⟨nofun, fun hall => absurd (hall value rfl) h⟩

theorem checkMtu_error_iff :
    c.checkMtu = .error fault ↔ ∃ value, c.mtu = some value ∧ ¬UsableMtu value ∧ fault = .mtu value := by
  simp only [← usableMtu_iff]
  unfold checkMtu
  cases c.mtu with
  | none => exact ⟨nofun, nofun⟩
  | some value =>
    dsimp only
    split
    · rename_i h
      refine ⟨nofun, ?_⟩
      rintro ⟨_, ⟨⟩, hbad, -⟩
      exact absurd h hbad
    · rename_i h
      refine ⟨fun heq => ⟨value, rfl, h, (Except.error.inj heq).symm⟩, ?_⟩
      rintro ⟨_, ⟨⟩, -, rfl⟩
      rfl

/-! ## the check as a whole -/

theorem check_ok_iff : c.check = .ok () ↔ c.Usable := by
  rw [check, check_andThen_ok_iff, check_andThen_ok_iff, check_andThen_ok_iff, checkName_ok_iff, checkEndpoint_ok_iff,
    checkDnsServers_ok_iff, checkMtu_ok_iff]
  exact ⟨fun ⟨hname, hendpoint, hservers, hmtu⟩ => ⟨hname, hendpoint, hservers, hmtu⟩,
    fun h => ⟨h.name, h.endpoint, h.dnsServers, h.mtu⟩⟩

theorem check_error_iff : c.check = .error fault ↔ c.FirstFault fault := by
  simp only [check, check_andThen_error_iff, checkName_ok_iff, checkName_error_iff, checkEndpoint_ok_iff,
    checkEndpoint_error_iff, checkDnsServers_ok_iff, checkDnsServers_error_iff, checkMtu_error_iff]
  constructor
  · rintro (⟨hname, rfl⟩ | ⟨hname, ⟨hendpoint, rfl⟩ | ⟨hendpoint, hservers | ⟨hservers, hmtu⟩⟩⟩)
    · exact .emptyName hname
    · exact .endpoint hname hendpoint
    · obtain ⟨before, server, after, hservers, hbefore, hserver, rfl⟩ := hservers
      exact .dnsServer hname hendpoint hservers hbefore hserver
    · obtain ⟨value, hvalue, hmtu, rfl⟩ := hmtu
      exact .mtu hname hendpoint hservers hvalue hmtu
  · intro h
    cases h with
    | emptyName hname => exact .inl ⟨hname, rfl⟩
    | endpoint hname hendpoint => exact .inr ⟨hname, .inl ⟨hendpoint, rfl⟩⟩
    | dnsServer hname hendpoint hservers hbefore hserver =>
      exact .inr ⟨hname, .inr ⟨hendpoint, .inl ⟨_, _, _, hservers, hbefore, hserver, rfl⟩⟩⟩
    | mtu hname hendpoint hservers hvalue hmtu =>
      exact .inr ⟨hname, .inr ⟨hendpoint, .inr ⟨hservers, _, hvalue, hmtu, rfl⟩⟩⟩

/-- **A configuration is accepted exactly if it is usable.  Any other is refused with the first thing that makes it
useless, and the message tells what that is.** -/
theorem usable_or_first_fault (c : TunnelConfig) :
    (c.check = .ok () ↔ c.Usable) ∧ (∀ fault, c.check = .error fault ↔ c.FirstFault fault) ∧
      ∀ fault : ConfigFault, fault.Told fault.message.toList :=
  ⟨check_ok_iff, fun _ => check_error_iff, ConfigFault.told_message⟩

end TunnelConfig

end TunnelControl
