import Mathlib.Data.List.Pairwise
import Networkrs.Lib.Once
import Networkrs.ScanTraffic
/-!
# TargetOnce — how often a pass probes a target

A pass lists its addresses network by network and leaves out the own address of that network only.  So an address of two
networks is probed twice, and the own address of one network is probed as a host of another.  Neither happens exactly
when the networks are apart (`Network.Apart`), and then a pass serves the targets once (`scans_each_target_once_iff`).
-/
namespace Networkrs

open Machine Collect Keyed

/-- The targets of a scan: the hosts of its networks, without the own address of any of them and without the excluded
addresses. -/
def scanTargets (networks : List Network) (excluded : List Ipv4Addr) : Set Ipv4Addr :=
  {address | (∃ network ∈ networks, network.HasHost address) ∧ address ∉ excluded ∧
    ∀ network ∈ networks, address ≠ network.address}

/-- **A scan that probes each target once a pass.**  Its datagrams, once it has its first table and its socket, are
those of `retries` passes. -/
def ScansEachTargetOnce (networks : List Network) (options : ScanOptions) : Prop :=
  ∀ (calls : ScanCalls) (table : List Neighbor), calls.before = .ok table → calls.bind = .ok () →
    ∃ passes : List (List Ipv4Addr), (Scanner.scan networks options calls).2 = passes.flatten ∧
      passes.length = options.retries.toNat ∧ ∀ pass ∈ passes, Once (scanTargets networks options.excluded) pass

/-- A network probes its hosts but its own address and the excluded ones. -/
def Network.Probes (excluded : List Ipv4Addr) (network : Network) (address : Ipv4Addr) : Prop :=
  network.HasHost address ∧ address ≠ network.address ∧ address ∉ excluded

/-- Two networks that probe no address both, and not the own address of the other. -/
def Network.Apart (excluded : List Ipv4Addr) (a b : Network) : Prop :=
  (∀ address, a.Probes excluded address → ¬ b.Probes excluded address) ∧
    ¬ a.Probes excluded b.address ∧ ¬ b.Probes excluded a.address

theorem Network.Built.mem_filter_targets_iff {network : Network} (h : network.Built) (excluded : List Ipv4Addr)
    (address : Ipv4Addr) :
    address ∈ network.targets.filter (fun address => address ∉ excluded) ↔ network.Probes excluded address := by
  rw [List.mem_filter, h.mem_targets_iff.2, decide_eq_true_eq, Network.Probes, and_assoc]

section
variable {networks : List Network} (hbuilt : ∀ network ∈ networks, network.Built)
include hbuilt

/-- **A scan within the limit sends one pass again and again.** -/
theorem sent_of_allowed (options : ScanOptions) (calls : ScanCalls) {table : List Neighbor}
    (hpos : 0 < combinedTargets networks) (hmax : combinedTargets networks ≤ maxTargets)
    (hbefore : calls.before = .ok table) (hbind : calls.bind = .ok ()) :
    (Scanner.scan networks options calls).2 =
      (List.replicate options.retries.toNat (passAddresses networks options.excluded).flatten).flatten := by
  have hfits : combinedTargets networks < 2 ^ 64 := Nat.lt_of_le_of_lt hmax (by decide)
  have hpasses : scanPasses networks options calls = .ok (beforeMap networks table,
      (List.replicate options.retries.toNat (passAddresses networks options.excluded).flatten).flatten) := by
    unfold scanPasses
    rw [mapM_targetCount hbuilt, if_pos hfits, hbefore, hbind, mapM_probes hbuilt]
    show (if combinedTargets networks = 0 then _ else if maxTargets < combinedTargets networks then _ else _) = _
    rw [if_neg (Nat.ne_of_gt hpos), if_neg (Nat.not_lt.2 hmax)]
    rfl
  unfold Scanner.scan
  rw [hpasses]

theorem mem_passAddresses {excluded : List Ipv4Addr} {address : Ipv4Addr} :
    (∃ l ∈ passAddresses networks excluded, address ∈ l) ↔
      ∃ network ∈ networks, network.Probes excluded address := by
  constructor
  · rintro ⟨l, hl, haddress⟩
    obtain ⟨network, hnetwork, rfl⟩ := List.mem_map.1 hl
    exact ⟨network, hnetwork, ((hbuilt network hnetwork).mem_filter_targets_iff excluded address).1 haddress⟩
  · rintro ⟨network, hnetwork, hprobes⟩
    exact ⟨_, List.mem_map_of_mem hnetwork,
      ((hbuilt network hnetwork).mem_filter_targets_iff excluded address).2 hprobes⟩

theorem disjoint_passAddresses_iff {excluded : List Ipv4Addr} :
    (passAddresses networks excluded).Pairwise List.Disjoint ↔
      networks.Pairwise (fun a b => ∀ address, a.Probes excluded address → ¬ b.Probes excluded address) := by
  unfold passAddresses
  rw [List.pairwise_map]
  refine List.Pairwise.iff_of_mem (fun {a b} ha hb => ?_)
  have hmem := (hbuilt a ha).mem_filter_targets_iff excluded
  have hmem' := (hbuilt b hb).mem_filter_targets_iff excluded
  constructor
  · intro h address hprobed hagain
    exact h ((hmem address).2 hprobed) ((hmem' address).2 hagain)
  · intro h address hprobed hagain
    exact h address ((hmem address).1 hprobed) ((hmem' address).1 hagain)

end

/-- What is probed is a target exactly when no network probes the own address of one of the list. -/
theorem probed_iff_target {networks : List Network} {excluded : List Ipv4Addr} :
    (∀ address, (∃ network ∈ networks, network.Probes excluded address) ↔
        address ∈ scanTargets networks excluded) ↔
      ∀ a ∈ networks, ∀ b ∈ networks, ¬ a.Probes excluded b.address := by
  constructor
  · intro h a ha b hb hprobed
    exact ((h b.address).1 ⟨a, ha, hprobed⟩).2.2 b hb rfl
  · intro h address
    constructor
    · rintro ⟨network, hnetwork, hprobes⟩
      refine ⟨⟨network, hnetwork, hprobes.1⟩, hprobes.2.2, fun b hb hown => ?_⟩
      subst hown
      exact h network hnetwork b hb hprobes
    · rintro ⟨⟨network, hnetwork, hhost⟩, hexcluded, hown⟩
      exact ⟨network, hnetwork, hhost, hown network hnetwork, hexcluded⟩

/-- No network probes its own address, so the pairs in the order of the list say it all. -/
theorem foreign_iff_pairwise {networks : List Network} {excluded : List Ipv4Addr} :
    (∀ a ∈ networks, ∀ b ∈ networks, ¬ a.Probes excluded b.address) ↔
      networks.Pairwise (fun a b => ¬ a.Probes excluded b.address ∧ ¬ b.Probes excluded a.address) := by
  constructor
  · intro h
    exact List.pairwise_of_forall_mem_list (fun a ha b hb => ⟨h a ha b hb, h b hb a ha⟩)
  · intro h a ha b hb
    have hsymm : Std.Symm (fun a b : Network =>
        ¬ a.Probes excluded b.address ∧ ¬ b.Probes excluded a.address) := ⟨fun _ _ h => ⟨h.2, h.1⟩⟩
    have hself : ∀ network ∈ networks,
        ¬ network.Probes excluded network.address ∧ ¬ network.Probes excluded network.address :=
      fun network _ => ⟨fun hprobes => hprobes.2.1 rfl, fun hprobes => hprobes.2.1 rfl⟩
    exact (List.Pairwise.forall_of_forall hself h ha hb).1

/-- **A pass serves the targets once exactly when its networks are apart.** -/
theorem once_passAddresses_iff {networks : List Network} {excluded : List Ipv4Addr}
    (hbuilt : ∀ network ∈ networks, network.Built) :
    Once (scanTargets networks excluded) (passAddresses networks excluded).flatten ↔
      networks.Pairwise (Network.Apart excluded) := by
  have hnodup : ∀ l ∈ passAddresses networks excluded, l.Nodup := fun l hl => by
    obtain ⟨network, hnetwork, rfl⟩ := List.mem_map.1 hl
    exact (hbuilt network hnetwork).mem_targets_iff.1.filter _
  rw [once_flatten_iff hnodup, disjoint_passAddresses_iff hbuilt]
  simp only [mem_passAddresses hbuilt]
  rw [probed_iff_target, foreign_iff_pairwise]
  exact List.pairwise_and_iff.symm

/-- **When each pass probes each target once**: exactly when the networks are apart, or there is no pass. -/
theorem scans_each_target_once_iff (networks : List Network) (options : ScanOptions)
    (hbuilt : ∀ network ∈ networks, network.Built) (hpos : 0 < combinedTargets networks)
    (hmax : combinedTargets networks ≤ maxTargets) :
    ScansEachTargetOnce networks options ↔
      options.retries = 0 ∨ networks.Pairwise (Network.Apart options.excluded) := by
  rw [← once_passAddresses_iff hbuilt]
  constructor
  · intro h
    obtain ⟨passes, hsent, hlength, honce⟩ := h ⟨.ok [], .ok (), .ok []⟩ [] rfl rfl
    rw [sent_of_allowed hbuilt options _ hpos hmax rfl rfl, ← hlength] at hsent
    refine (once_of_rounds honce hsent).imp_left (fun hnil => ?_)
    rw [hnil] at hlength
    exact UInt32.toNat_inj.1 hlength.symm
  · intro h calls table hbefore hbind
    refine ⟨List.replicate options.retries.toNat (passAddresses networks options.excluded).flatten,
      sent_of_allowed hbuilt options calls hpos hmax hbefore hbind, List.length_replicate, fun pass hpass => ?_⟩
    obtain ⟨hne, rfl⟩ := List.mem_replicate.1 hpass
    exact h.resolve_left (fun hzero => hne (by rw [hzero]; rfl))

theorem scans_each_target_once_iff_two : ScansEachTargetOnce
    [⟨"eth0", 2, Ipv4Addr.new 192 168 1 1, 29, 0xc0a80100, 0xc0a80107⟩,
      ⟨"eth1", 3, Ipv4Addr.new 192 168 1 10, 29, 0xc0a80108, 0xc0a8010f⟩] ⟨2, [Ipv4Addr.new 192 168 1 3]⟩ := by
  have hfirst : Network.Built ⟨"eth0", 2, Ipv4Addr.new 192 168 1 1, 29, 0xc0a80100, 0xc0a80107⟩ :=
    ⟨"eth0", 2, Ipv4Addr.new 192 168 1 1, Ipv4Addr.new 192 168 1 1, 29, by decide, by decide +kernel⟩
  have hsecond : Network.Built ⟨"eth1", 3, Ipv4Addr.new 192 168 1 10, 29, 0xc0a80108, 0xc0a8010f⟩ :=
    ⟨"eth1", 3, Ipv4Addr.new 192 168 1 10, Ipv4Addr.new 192 168 1 10, 29, by decide, by decide +kernel⟩
  refine (scans_each_target_once_iff _ ⟨2, [Ipv4Addr.new 192 168 1 3]⟩ (fun network hnetwork => ?_) (by decide +kernel)
    (by decide +kernel)).2 (.inr ?_)
  · rcases List.mem_cons.1 hnetwork with rfl | hnetwork
    · exact hfirst
    · rw [List.mem_singleton.1 hnetwork]
      exact hsecond
  · rw [List.pairwise_pair]
    unfold Network.Apart
    simp only [← hfirst.mem_filter_targets_iff, ← hsecond.mem_filter_targets_iff]
    decide +kernel

/-- Two interfaces on one subnet, each with its own address there. -/
def sharedSubnet : List Network :=
  [⟨"eth0", 2, Ipv4Addr.new 192 168 1 1, 29, 0xc0a80100, 0xc0a80107⟩,
    ⟨"eth1", 3, Ipv4Addr.new 192 168 1 2, 29, 0xc0a80100, 0xc0a80107⟩]

/-- On a shared subnet the hosts are probed twice in a pass, and the own address of each interface once. -/
theorem shared_subnet_is_probed_twice :
    sharedSubnet.map Except.ok = [Network.new "eth0" 2 (Ipv4Addr.new 192 168 1 1) 29,
        Network.new "eth1" 3 (Ipv4Addr.new 192 168 1 2) 29] ∧
      0 < combinedTargets sharedSubnet ∧ combinedTargets sharedSubnet ≤ maxTargets ∧
      ((Scanner.scan sharedSubnet ⟨1, []⟩ ⟨.ok [], .ok (), .ok []⟩).2).count (Ipv4Addr.new 192 168 1 3) = 2 ∧
      ((Scanner.scan sharedSubnet ⟨1, []⟩ ⟨.ok [], .ok (), .ok []⟩).2).count (Ipv4Addr.new 192 168 1 2) = 1 ∧
      ¬ ScansEachTargetOnce sharedSubnet ⟨1, []⟩ := by
  have hcount :
      ((Scanner.scan sharedSubnet ⟨1, []⟩ ⟨.ok [], .ok (), .ok []⟩).2).count (Ipv4Addr.new 192 168 1 3) = 2 := by
    decide +kernel
  refine ⟨by decide +kernel, by decide +kernel, by decide +kernel, hcount, by decide +kernel, fun h => ?_⟩
  obtain ⟨passes, hsent, hlength, honce⟩ := h ⟨.ok [], .ok (), .ok []⟩ [] rfl rfl
  obtain ⟨pass, rfl⟩ := List.length_eq_one_iff.1 hlength
  rw [hsent, List.flatten_singleton] at hcount
  have hnodup := (once_iff.1 (honce pass (List.mem_singleton_self pass))).1
  have hle := List.nodup_iff_count.1 hnodup (Ipv4Addr.new 192 168 1 3)
  omega

end Networkrs
