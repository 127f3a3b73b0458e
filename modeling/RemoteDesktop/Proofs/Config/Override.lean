import RemoteDesktop.Config
import RemoteDesktop.Net.IpAddress
import RemoteDesktop.Proofs.Net.Address

/-!
# Overriding the listen address

A port given at the start is put into the address configured, which is read, changed and written again: that is sound
because a written address is read back. A host is joined with a port as one text. For an IPv4 address this text is the
address with that port. For an IPv6 address it is none, whatever the address: it begins with groups or with a colon,
where a reader expects an octet with a point or a bracket (`ofText?_unbracketed`). With brackets around it an IPv6
address takes effect as well.

Main statements: `Config.port_override_keeps_address`, `Config.host_override_takes_effect`.
-/

namespace RemoteDesktop

open Text.Numeral (isDigit run)

namespace Net

/-! ### Groups without brackets -/

variable {rest : List Char}

/-- Groups with a colon behind them do not begin an IPv4 address. -/
theorem Ipv4.read?_writeGroups (groups : List UInt16) (more : List Char) :
    Ipv4.read? (Ipv6.writeGroups groups ++ ':' :: more) = none := by
  cases groups with
  | nil => exact Ipv4.read?_of_run rfl
  | cons group groups =>
    rw [Ipv6.writeGroups_cons, List.append_assoc]
    exact Ipv4.read?_group group (Ipv6.bounded_writeTail groups (bounded_colon more))

/-- Groups with a colon behind them do not begin with a bracket. -/
theorem expect?_bracket_writeGroups (groups : List UInt16) (more : List Char) :
    expect? '[' (Ipv6.writeGroups groups ++ ':' :: more) = none := by
  cases groups with
  | nil => rfl
  | cons group groups =>
    rw [Ipv6.writeGroups_cons]
    cases hdigits : Text.Numeral.write 16 group.toNat with
    | nil => exact absurd hdigits (Text.Numeral.write_ne_nil 16 _)
    | cons c digits =>
      have hdigit : isDigit 16 c = true :=
        Text.Numeral.isDigit_of_mem_write (by decide) (by decide) c (hdigits ▸ List.mem_cons_self)
      have hne : c ≠ '[' := by
        rintro rfl
        revert hdigit
        decide
      exact if_neg hne

/-- Groups with a colon behind them begin no socket address. -/
theorem SocketAddress.ofText?_unbracketed (groups : List UInt16) (more : List Char) :
    ofText? (Ipv6.writeGroups groups ++ ':' :: more) = none := by
  have hv4 : readV4? (Ipv6.writeGroups groups ++ ':' :: more) = none := by
    rw [readV4?, Ipv4.read?_writeGroups]
    rfl
  have hv6 : readV6? (Ipv6.writeGroups groups ++ ':' :: more) = none := by
    rw [readV6?, expect?_bracket_writeGroups]
    rfl
  rw [ofText?, hv4, hv6]
  rfl

/-- In each of its forms an IPv6 address begins with groups and a colon, if a colon follows it. -/
theorem Ipv6.exists_write_eq (ip : Ipv6) (rest : List Char) :
    ∃ groups more, ip.write ++ ':' :: rest = writeGroups groups ++ ':' :: more := by
  rw [write]
  split
  next v4 _ => exact ⟨[], ":ffff:".toList ++ (v4.write ++ ':' :: rest), by simp [writeGroups, Text.joinWith]⟩
  next =>
    cases longestZeros ip.groups with
    | mk start length =>
      simp only
      split
      next => exact ⟨ip.groups.take start, ':' :: (writeGroups (ip.groups.drop (start + length)) ++ ':' :: rest), by simp⟩
      next => exact ⟨ip.groups, rest, rfl⟩

end Net

namespace Config

open Net

/-! ### Texts for the listen address -/

theorem listenAddress_eq_ok_iff {config : Config} {address : SocketAddress} :
    config.listenAddress = .ok address ↔ SocketAddress.ofText? config.server.listenAddress.toList = some address := by
  unfold listenAddress
  cases SocketAddress.ofText? config.server.listenAddress.toList with
  | none => exact ⟨nofun, nofun⟩
  | some found => exact ⟨fun h => congrArg some (Except.ok.inj h), fun h => congrArg Except.ok (Option.some.inj h)⟩

theorem listenAddress_of_some (config : Config) {text : List Char} {address : SocketAddress}
    (h : SocketAddress.ofText? text = some address) :
    (config.withListenText (String.ofList text)).listenAddress = .ok address := by
  rw [listenAddress_eq_ok_iff]
  exact (congrArg SocketAddress.ofText? String.toList_ofList).trans h

theorem listenAddress_of_none (config : Config) {text : List Char} (h : SocketAddress.ofText? text = none) :
    (config.withListenText (String.ofList text)).listenAddress = .error .listenAddress := by
  have htext : SocketAddress.ofText? (config.withListenText (String.ofList text)).server.listenAddress.toList = none :=
    (congrArg SocketAddress.ofText? String.toList_ofList).trans h
  unfold listenAddress
  rw [htext]

/-- A host and a port are joined with a colon. -/
theorem hostAndPort_ofList (host : List Char) (port : UInt16) :
    hostAndPort (String.ofList host) port = String.ofList (host ++ ':' :: Text.Numeral.write 10 port.toNat) := by
  rw [hostAndPort, ← String.toList_inj]
  simp

/-! ### What becomes of the text -/

theorem override_port {config : Config} {configured : SocketAddress} (h : config.listenAddress = .ok configured)
    (port : UInt16) :
    config.override none (some port) = config.withListenText (String.ofList (configured.withPort port).write) := by
  unfold override
  rw [h]

theorem override_host {config : Config} {configured : SocketAddress} (h : config.listenAddress = .ok configured)
    (host : List Char) (port : Option UInt16) :
    config.override (some (String.ofList host)) port = config.withListenText
      (String.ofList (host ++ ':' :: Text.Numeral.write 10 (port.getD configured.port).toNat)) := by
  rw [← hostAndPort_ofList]
  cases port with
  | none =>
    unfold override
    rw [h]
    rfl
  | some port => rfl

/-- **A port given at the start keeps the address configured**, scope included, and nothing else changes. -/
theorem port_override_keeps_address (config : Config) {configured : SocketAddress}
    (h : config.listenAddress = .ok configured) (port : UInt16) :
    ∃ address, (config.override none (some port)).listenAddress = .ok address ∧
      address.ip = configured.ip ∧ address.scope = configured.scope ∧ address.port = port ∧
      (config.override none (some port)).withListenText config.server.listenAddress = config := by
  rw [override_port h]
  exact ⟨configured.withPort port, config.listenAddress_of_some (SocketAddress.ofText?_write _),
    configured.ip_withPort port, configured.scope_withPort port, configured.port_withPort port, rfl⟩

/-- Another spelling of the same address is configured, with a scope. -/
theorem port_override_keeps_address_scoped :
    let config := (Config.standard "/run").withListenText "[FE80::0:0001%07]:3389"
    let ip : Ipv6 := ⟨[0xfe80, 0, 0, 0, 0, 0, 0, 1], rfl⟩
    config.listenAddress = .ok (.v6 ip 7 3389) ∧
      ∃ address, (config.override none (some 4000)).listenAddress = .ok address ∧
        address.ip = .v6 ip ∧ address.scope = 7 ∧ address.port = 4000 ∧
        (config.override none (some 4000)).withListenText "[FE80::0:0001%07]:3389" = config := by
  intro config ip
  have hconfigured : config.listenAddress = .ok (.v6 ip 7 3389) := listenAddress_eq_ok_iff.2 (by decide +kernel)
  exact ⟨hconfigured, port_override_keeps_address config hconfigured 4000⟩

/-! ### A host -/

/-- A written IPv6 address and a colon with a port are no socket address. -/
theorem ofText?_v6_unbracketed (ip : Ipv6) (port : UInt16) :
    SocketAddress.ofText? (ip.write ++ ':' :: Text.Numeral.write 10 port.toNat) = none := by
  obtain ⟨groups, more, htext⟩ := ip.exists_write_eq (Text.Numeral.write 10 port.toNat)
  rw [htext, SocketAddress.ofText?_unbracketed]

theorem write_v6_bracketed (ip : Ipv6) (port : UInt16) :
    '[' :: ip.write ++ [']'] ++ ':' :: Text.Numeral.write 10 port.toNat = (SocketAddress.v6 ip 0 port).write := by
  simp [SocketAddress.write]

/-- **An IPv4 address given at the start takes effect**, with the port given or else the one configured. An IPv6
address given as its plain text leaves the server without a listen address; in brackets it takes effect. -/
theorem host_override_takes_effect (config : Config) {configured : SocketAddress}
    (h : config.listenAddress = .ok configured) (ip : IpAddress) (port : Option UInt16) :
    (config.override (some (String.ofList ip.write)) port).listenAddress =
        (if ip.isV6 then .error .listenAddress else .ok (ip.withPort (port.getD configured.port))) ∧
      (ip.isV6 → (config.override (some (String.ofList ('[' :: ip.write ++ [']']))) port).listenAddress =
        .ok (ip.withPort (port.getD configured.port))) := by
  rw [override_host h, override_host h]
  cases ip with
  | v4 ip =>
    refine ⟨?_, nofun⟩
    exact config.listenAddress_of_some (SocketAddress.ofText?_write (.v4 ip _))
  | v6 ip =>
    refine ⟨config.listenAddress_of_none (ofText?_v6_unbracketed ip _), fun _ => ?_⟩
    apply config.listenAddress_of_some
    rw [IpAddress.write, write_v6_bracketed]
    exact SocketAddress.ofText?_write (.v6 ip 0 _)

/-- An IPv4 address, and an IPv6 address that holds it, in place of an address in a scope whose port stays. -/
theorem host_override_takes_effect_mapped :
    let config := (Config.standard "/run").withListenText "[fe80::1%3]:4"
    let ip : Ipv4 := ⟨10, 0, 0, 1⟩
    let mapped : Ipv6 := ⟨[0, 0, 0, 0, 0, 0xffff, 0x0a00, 1], rfl⟩
    config.listenAddress = .ok (.v6 ⟨[0xfe80, 0, 0, 0, 0, 0, 0, 1], rfl⟩ 3 4) ∧ (IpAddress.v6 mapped).isV6 ∧
      (config.override (some (String.ofList ip.write)) none).listenAddress = .ok (.v4 ip 4) ∧
      (config.override (some (String.ofList mapped.write)) none).listenAddress = .error .listenAddress ∧
      (config.override (some (String.ofList ('[' :: mapped.write ++ [']']))) none).listenAddress =
        .ok (.v6 mapped 0 4) := by
  intro config ip mapped
  have hconfigured : config.listenAddress = .ok (.v6 ⟨[0xfe80, 0, 0, 0, 0, 0, 0, 1], rfl⟩ 3 4) :=
    listenAddress_eq_ok_iff.2 (by decide +kernel)
  have hv4 := host_override_takes_effect config hconfigured (.v4 ip) none
  have hv6 := host_override_takes_effect config hconfigured (.v6 mapped) none
  exact ⟨hconfigured, rfl, hv4.1, hv6.1, hv6.2 rfl⟩

/-- The loopback address of IPv6, given at the start as it is written, is joined with the port to a text that is no
address. -/
theorem plain_ipv6_host_is_refused :
    let config := Config.standard "/run"
    let loopback : IpAddress := .v6 ⟨[0, 0, 0, 0, 0, 0, 0, 1], rfl⟩
    config.listenAddress = .ok (.v4 ⟨0, 0, 0, 0⟩ 3389) ∧ loopback.write = "::1".toList ∧
      (config.override (some "::1") none).server.listenAddress = "::1:3389" ∧
      (config.override (some "::1") none).listenAddress = .error .listenAddress := by
  intro config loopback
  have hconfigured : config.listenAddress = .ok (.v4 ⟨0, 0, 0, 0⟩ 3389) := listenAddress_eq_ok_iff.2 (by decide +kernel)
  have hconfig : config.override (some "::1") none = config.withListenText "::1:3389" := by
    unfold override
    rw [hconfigured]
    decide +kernel
  refine ⟨hconfigured, by decide +kernel, by rw [hconfig]; rfl, ?_⟩
  rw [hconfig]
  exact config.listenAddress_of_none (by decide +kernel)

end Config

end RemoteDesktop
