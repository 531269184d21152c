import LinkWatch.Monitor.Fetcher
import LinkWatch.Proofs.Difference
import LinkWatch.Proofs.Filter
import LinkWatch.Proofs.Host.Enumeration
import LinkWatch.Proofs.Host.Routes

/-!
# What holds of every fetched record

A host may report anything: entries without names, flags in any combination, addresses of families
that are not looked at, routes that make no sense. The records are in order all the same
(`Interface.WellFormed`), and every one stands under its own id. Differences, the copies that
observers keep and look-ups by id rely on this.

The record of a name is known as a whole (`recordOf`), so that there is one lemma for each part of it
and nothing to say about the order in which the entries came. A filter only drops records
(`Snapshot.WellFormed.restrict`).
-/

namespace LinkWatch

/-! ## Well-formed records -/

/-- A record as a host gives it: named by its id alone, up if it has a carrier, made by software if it
is a loopback, with addresses that are set, and with gateways that are IPv4 addresses other than
zero, none of them twice. -/
structure Interface.WellFormed (i : Interface) : Prop where
  description_eq : i.description = i.id
  aliasName_eq : i.aliasName = i.id
  enabled_of_connected : i.isConnected = true → i.isEnabled = true
  virtual_of_loopback : i.kind = .loopback → i.isVirtual = true
  address_valid : ∀ a ∈ i.addresses, a.address.isValid = true
  gateways_nodup : i.gateways.Nodup
  gateway_v4 : ∀ g ∈ i.gateways, ∃ o : Octets, g = .v4 o ∧ o ≠ #v[0, 0, 0, 0]

/-- All records are well formed, and each stands under its id. -/
structure Snapshot.WellFormed (s : Snapshot) : Prop where
  keyed : s.IsKeyed
  records : ∀ k i, s.get? k = some i → i.WellFormed

/-- A filter drops records and changes none. -/
theorem Snapshot.WellFormed.restrict {s : Snapshot} (h : s.WellFormed)
    (f : Filter (String → Bool)) : (f.restrict s).WellFormed := by
  have hkept {k : String} {i : Interface} (hi : (f.restrict s).get? k = some i) :
      s.get? k = some i := by
    rw [f.get?_restrict, Option.filter_eq_some_iff] at hi
    exact hi.1
  exact ⟨fun k i hi => h.keyed k i (hkept hi), fun k i hi => h.records k i (hkept hi)⟩

namespace Host

variable (env : Environment) (n : String) (first : Entry) (own : List Entry)

/-! ## The parts of a record -/

/-- Only addresses of the two families are listed. -/
theorem isValid_of_mem_addresses {a : Assignment} (ha : a ∈ (recordOf env n first own).addresses) :
    a.address.isValid = true := by
  obtain ⟨e, -, he⟩ := List.mem_filterMap.1 ha
  obtain ⟨ip, hip, rfl⟩ := Option.map_eq_some_iff.1 he
  obtain ⟨reported, -, hreported⟩ := Option.bind_eq_some_iff.1 hip
  -- what is reported in another family gives no address, and so no entry of the list
  cases reported with
  | v4 o =>
    cases hreported
    rfl
  | v6 g =>
    cases hreported
    rfl
  | link bytes => cases hreported
  | other => cases hreported

/-- The loopback flag decides the kind before anything else does. -/
theorem isVirtual_of_loopback (h : (recordOf env n first own).kind = .loopback) :
    (recordOf env n first own).isVirtual = true := by
  have hflag : hasFlags first.flags flagLoopback = true := by
    by_contra hno
    have hkind : (recordOf env n first own).kind =
        if env.isWireless n then .wifi else .ethernet := if_neg hno
    rw [hkind] at h
    split at h <;> cases h
  simp [recordOf, hflag]

theorem gateways_of_recordOf :
    (recordOf env n first own).gateways.Nodup ∧
      ∀ g ∈ (recordOf env n first own).gateways, ∃ o : Octets, g = .v4 o ∧ o ≠ #v[0, 0, 0, 0] := by
  change ((gateways? env n).getD []).Nodup ∧ ∀ g ∈ (gateways? env n).getD [], _
  cases hgateways : gateways? env n with
  | none =>
    -- without a table, or without a line for this name
    constructor
    · exact List.nodup_nil
    · intro g hg
      cases hg
  | some gs =>
    obtain ⟨table, -, htable⟩ := Option.bind_eq_some_iff.1 hgateways
    exact listed_gateways htable

theorem wellFormed_recordOf : (recordOf env n first own).WellFormed where
  description_eq := rfl
  aliasName_eq := rfl
  enabled_of_connected h := (Bool.and_eq_true_iff.1 h).1
  virtual_of_loopback := isVirtual_of_loopback env n first own
  address_valid _ ha := isValid_of_mem_addresses env n first own ha
  gateways_nodup := (gateways_of_recordOf env n first own).1
  gateway_v4 := (gateways_of_recordOf env n first own).2

/-- Every record of a snapshot is that of the name it stands under. -/
theorem wellFormed_snapshot (entries : List Entry) : (snapshot env entries).WellFormed := by
  have hrecord {k : String} {i : Interface} (hi : (snapshot env entries).get? k = some i) :
      ∃ first, i = recordOf env k first (named k entries) := by
    rw [get?_snapshot] at hi
    obtain ⟨first, -, rfl⟩ := Option.map_eq_some_iff.1 hi
    exact ⟨first, rfl⟩
  constructor
  · intro k i hi
    obtain ⟨first, rfl⟩ := hrecord hi
    rfl
  · intro k i hi
    obtain ⟨first, rfl⟩ := hrecord hi
    exact wellFormed_recordOf env k first _

/-! ## Main result -/

/-- Whatever a host reports, the records of its snapshot are well formed and stand under their ids.
The same holds of what a filtered fetcher hands out when the fetcher behind it hands out such a
snapshot: these are the accepted ones among the records. -/
theorem fetched_records_wellFormed :
    (∀ env entries, (snapshot env entries).WellFormed) ∧
    (∀ (φ : Type) [Fetcher φ] (fetcher : φ) (f : Filter (String → Bool)) env entries,
      (Fetcher.fetch fetcher).1 = .snapshot (snapshot env entries) →
      ∃ s, (Fetcher.fetch (⟨fetcher, f⟩ : FilteredFetcher φ)).1 = .snapshot s ∧ s.WellFormed ∧
        ∀ k, s.get? k = ((snapshot env entries).get? k).filter f.accepts) := by
  refine ⟨wellFormed_snapshot, ?_⟩
  intro φ _ fetcher f env entries hfetch
  have hfiltered : (Fetcher.fetch (⟨fetcher, f⟩ : FilteredFetcher φ)).1 =
      (Fetcher.fetch fetcher).1.restrict f := rfl
  rw [hfetch] at hfiltered
  exact ⟨_, hfiltered, (wellFormed_snapshot env entries).restrict f, f.get?_restrict _⟩

/-- Of a loopback and a card with a gateway, a filter that refuses virtual interfaces leaves the card. -/
theorem fetched_records_wellFormed_card :
    let lo : Entry := ⟨some "lo".toUTF8, 0x49, some (.v4 #v[127, 0, 0, 1]), none⟩
    let card : Entry := ⟨some "eth0".toUTF8, 0x43, some (.v4 #v[192, 168, 1, 7]), none⟩
    let table := "Iface\tDestination\tGateway\neth0\t00000000\t0101A8C0\n"
    let shown := snapshot ⟨fun _ => false, fun _ => false, some table⟩ [lo, card]
    let f : Filter (String → Bool) := ⟨[], [.virtual]⟩
    (Fetcher.fetch (Script.new [.snapshot shown])).1 = .snapshot shown ∧
      ∃ s, (Fetcher.fetch (⟨.new [.snapshot shown], f⟩ : FilteredFetcher Script)).1 = .snapshot s ∧
        s.WellFormed ∧ s.get? "lo" = none ∧
        (s.get? "eth0").map (·.gateways) = some [.v4 #v[192, 168, 1, 1]] := by
  intro lo card table shown f
  have hfetch : (Fetcher.fetch (Script.new [.snapshot shown])).1 = .snapshot shown := rfl
  obtain ⟨s, hs, hwell, hkept⟩ := fetched_records_wellFormed.2 Script _ f _ _ hfetch
  refine ⟨hfetch, s, hs, hwell, ?_, ?_⟩
  · rw [hkept]
    decide +kernel
  · rw [hkept]
    decide +kernel

end Host
end LinkWatch
