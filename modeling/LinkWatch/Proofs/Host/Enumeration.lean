import LinkWatch.Host.Enumeration
import LinkWatch.Proofs.Keyed

/-!
# The record of a name

The entries of the host's list come in any order, with those of several interfaces mixed. Taking an
entry changes the record of its own name only (`takeEntry_eq_collect`), so that the record of a name
comes from the entries of that name alone. What these add up to can be read off at once (`recordOf`):
the first of them makes the record, those with an IP address make its list of addresses, and the
last one with a link-layer address of six bytes gives the hardware address.

`snapshot_groups_by_name` says this of a snapshot and draws the conclusions: entries of different
names can change places, and the routing table has a say in the gateways only.
-/

namespace LinkWatch.Host

variable (env : Environment)

/-! ## Flags -/

/-- All wanted flags are set if every bit that is wanted is one. -/
theorem hasFlags_iff (flags wanted : UInt32) :
    hasFlags flags wanted = true ↔
      ∀ i < 32, wanted.toBitVec.getLsbD i = true → flags.toBitVec.getLsbD i = true := by
  rw [hasFlags, beq_iff_eq, ← UInt32.toBitVec_inj, UInt32.toBitVec_and, BitVec.eq_of_getLsbD_eq_iff]
  simp only [BitVec.getLsbD_and, Bool.and_eq_right_iff_imp]

/-- Two sets of flags are set together if and only if each of them is. -/
theorem hasFlags_or (flags a b : UInt32) :
    hasFlags flags (a ||| b) = (hasFlags flags a && hasFlags flags b) := by
  rw [Bool.eq_iff_iff, Bool.and_eq_true, hasFlags_iff, hasFlags_iff, hasFlags_iff]
  simp only [UInt32.toBitVec_or, BitVec.getLsbD_or, Bool.or_eq_true]
  grind

/-! ## What one entry gives -/

/-- The hardware address that a reported address holds: a link-layer address of six bytes. -/
def SocketAddress.hardware? : SocketAddress → Option HardwareAddress
  | link bytes => if h : bytes.length = 6 then some ⟨⟨bytes.toArray, h⟩⟩ else none
  | _ => none

/-- The hardware address that an entry gives. -/
def Entry.hardware? (e : Entry) : Option HardwareAddress :=
  e.address.bind SocketAddress.hardware?

/-- The address that an entry gives, with its netmask. -/
def Entry.assignment? (e : Entry) : Option Assignment :=
  (e.address.bind SocketAddress.ip?).map fun ip =>
    ⟨ip, (e.netmask.bind SocketAddress.ip?).getD .none⟩

theorem addAddress_link (bytes : List UInt8) (netmask : Option SocketAddress) (i : Interface) :
    addAddress (some (.link bytes)) netmask i =
      { i with hardware := (SocketAddress.link bytes).hardware?.getD i.hardware } := by
  match bytes with
  | [_, _, _, _, _, _] => rfl
  | [] | [_] | [_, _] | [_, _, _] | [_, _, _, _] | [_, _, _, _, _] => rfl
  | _ :: _ :: _ :: _ :: _ :: _ :: _ :: _ => simp [addAddress, SocketAddress.hardware?]

/-- An entry adds the address that it gives to the list, and the hardware address takes the place of
the one so far. -/
theorem addAddress_eq (e : Entry) (i : Interface) :
    addAddress e.address e.netmask i =
      { i with
        addresses := i.addresses ++ e.assignment?.toList
        hardware := e.hardware?.getD i.hardware } := by
  obtain ⟨name, flags, address, netmask⟩ := e
  match address with
  | some (.v4 _) | some (.v6 _) => rfl
  | some (.link bytes) =>
    rw [addAddress_link]
    simp [Entry.assignment?, Entry.hardware?, SocketAddress.ip?]
  | none | some .other =>
    simp [addAddress, Entry.assignment?, Entry.hardware?, SocketAddress.ip?, SocketAddress.hardware?]

/-- What entries of one name add to its record. -/
theorem foldl_addAddress (own : List Entry) (i : Interface) :
    own.foldl (fun i e => addAddress e.address e.netmask i) i =
      { i with
        addresses := i.addresses ++ own.filterMap Entry.assignment?
        hardware := (own.filterMap Entry.hardware?).getLast?.getD i.hardware } := by
  induction own generalizing i with
  | nil => simp
  | cons e own ih =>
    -- a later hardware address takes the place of the one that `e` gives
    rw [List.foldl_cons, ih, addAddress_eq]
    cases ha : e.assignment? <;> cases hm : e.hardware? <;> simp [ha, hm, List.getLast?_cons]

/-! ## The record of a name -/

/-- The entries of a name, in list order. -/
def named (n : String) (entries : List Entry) : List Entry :=
  entries.filter fun e => e.label = some n

/-- The default gateways of a name, if the routing table can be read and has any. -/
def gateways? (n : String) : Option (List IpAddress) :=
  env.routingTable.bind fun table => (defaultGateways table).get? n

/-- The record that the entries of a name give, of which the first is given too. -/
def recordOf (n : String) (first : Entry) (own : List Entry) : Interface where
  id := n
  description := n
  aliasName := n
  hardware := (own.filterMap Entry.hardware?).getLast?.getD .zero
  addresses := own.filterMap Entry.assignment?
  gateways := (gateways? env n).getD []
  kind :=
    if hasFlags first.flags flagLoopback then .loopback
    else if env.isWireless n then .wifi
    else .ethernet
  isEnabled := hasFlags first.flags flagUp
  isConnected := hasFlags first.flags flagUp && hasFlags first.flags flagRunning
  isVirtual := hasFlags first.flags flagLoopback || env.isVirtual n

theorem newRecord_eq (n : String) (e : Entry) :
    newRecord env n e.flags = { recordOf env n e [] with gateways := [] } := by
  -- the loopback flag decides the kind before the marks do, so the kind tells whether it is set
  have hkind (b : Bool) : InterfaceKind.isLoopback
      (if hasFlags e.flags flagLoopback then .loopback else if b then .wifi else .ethernet) =
        hasFlags e.flags flagLoopback := by
    cases hasFlags e.flags flagLoopback <;> cases b <;> rfl
  simp only [newRecord, recordOf, hasFlags_or, hkind]
  rfl

/-- Taking an entry changes the record of its own name only. -/
theorem takeEntry_eq_collect :
    takeEntry env =
      Keyed.collect Entry.label (fun n e => newRecord env n e.flags)
        fun e => addAddress e.address e.netmask := by
  funext records e
  cases hlabel : e.label <;> simp only [takeEntry, Keyed.collect, hlabel]

theorem get?_foldl_takeEntry (entries : List Entry) (n : String) :
    (entries.foldl (takeEntry env) .empty).get? n =
      (named n entries).head?.map fun first =>
        { recordOf env n first (named n entries) with gateways := [] } := by
  rw [takeEntry_eq_collect, Keyed.get?_collected]
  refine congrArg (fun g => Option.map g _) (funext fun first => ?_)
  rw [foldl_addAddress, newRecord_eq]
  rfl

theorem get?_attachGateways (records : Snapshot) (n : String) :
    (attachGateways env records).get? n =
      (records.get? n).map fun i => { i with gateways := (gateways? env n).getD i.gateways } := by
  rw [attachGateways, gateways?]
  cases env.routingTable with
  | none => simp
  | some table =>
    simp only [Option.bind_some]
    rw [Keyed.get?_mapValues]
    cases (defaultGateways table).get? n <;> rfl

/-- A snapshot has under each name the record that the entries of that name give. -/
theorem get?_snapshot (entries : List Entry) (n : String) :
    (snapshot env entries).get? n =
      (named n entries).head?.map fun first => recordOf env n first (named n entries) := by
  rw [snapshot, get?_attachGateways, get?_foldl_takeEntry, Option.map_map]
  rfl

theorem mem_keys_snapshot_iff (entries : List Entry) (n : String) :
    n ∈ (snapshot env entries).keys ↔ ∃ e ∈ entries, e.label = some n := by
  rw [Keyed.mem_keys_iff, get?_snapshot, Option.isSome_map, List.isSome_head?, named]
  simp

/-! ## Main result -/

/-- A snapshot without what the routing table says. -/
def withoutGateways (s : Snapshot) : Snapshot := s.mapValues fun _ i => { i with gateways := [] }

/-- A snapshot has one record for each name of an entry, the one that the entries of that name give.
So the record of a name depends on the entries of that name, on the marks of that name in the device
tree and on the gateways of that name only, neighbours with different names can change places, and
apart from the gateways the routing table says nothing. -/
theorem snapshot_groups_by_name :
    (∀ env entries n, (snapshot env entries).get? n =
      (named n entries).head?.map fun first => recordOf env n first (named n entries)) ∧
    (∀ env entries, (snapshot env entries).keys.Nodup ∧
      ∀ n, n ∈ (snapshot env entries).keys ↔ ∃ e ∈ entries, e.label = some n) ∧
    (∀ env env' entries entries' n, named n entries = named n entries' →
      env.isWireless n = env'.isWireless n → env.isVirtual n = env'.isVirtual n →
      gateways? env n = gateways? env' n →
      (snapshot env entries).get? n = (snapshot env' entries').get? n) ∧
    (∀ env before a b after, a.label ≠ b.label →
      snapshot env (before ++ a :: b :: after) = snapshot env (before ++ b :: a :: after)) ∧
    (∀ env table entries, withoutGateways (snapshot { env with routingTable := table } entries) =
      withoutGateways (snapshot env entries)) := by
  refine ⟨get?_snapshot, fun env entries => ⟨Keyed.nodup_keys _, mem_keys_snapshot_iff env entries⟩,
    fun env env' entries entries' n hnamed hwireless hvirtual hgateways => ?_,
    fun env before a b after h => ?_, fun env table entries => ?_⟩
  · rw [get?_snapshot, get?_snapshot, hnamed]
    simp only [recordOf, hwireless, hvirtual, hgateways]
  · rw [snapshot, takeEntry_eq_collect, Keyed.foldl_collect_swap _ _ _ h]
    rfl
  · refine Keyed.ext_get? fun n => ?_
    rw [withoutGateways, withoutGateways, Keyed.get?_mapValues, Keyed.get?_mapValues, get?_snapshot,
      get?_snapshot, Option.map_map, Option.map_map]
    rfl

/-- The address of a loopback and the hardware address of a card are reported in either order, and
each goes into the record of its own name. -/
theorem snapshot_groups_by_name_of_two :
    let lo : Entry :=
      ⟨some "lo".toUTF8, 0x49, some (.v4 #v[127, 0, 0, 1]), some (.v4 #v[255, 0, 0, 0])⟩
    let card : Entry := ⟨some "eth0".toUTF8, 0x3, some (.link [2, 0, 0, 0, 0, 1]), none⟩
    let env : Environment := ⟨fun _ => false, fun _ => false, none⟩
    lo.label ≠ card.label ∧ snapshot env [lo, card] = snapshot env [card, lo] ∧
      named "lo" [card, lo] = named "lo" [lo] ∧
      (snapshot env [card, lo]).get? "lo" = (snapshot env [lo]).get? "lo" ∧
      (snapshot env [card, lo]).get? "lo" = some { Interface.new "lo" .loopback with
        addresses := [⟨.v4 #v[127, 0, 0, 1], .v4 #v[255, 0, 0, 0]⟩]
        isEnabled := true
        isConnected := true
        isVirtual := true } ∧
      (snapshot env [card, lo]).get? "eth0" = some { Interface.new "eth0" .ethernet with
        hardware := .ofSix 2 0 0 0 0 1
        isEnabled := true
        isConnected := false
        isVirtual := false } := by
  intro lo card env
  have hlo : lo.label = some "lo" := by decide +kernel
  have hcard : card.label = some "eth0" := by decide +kernel
  have hne : lo.label ≠ card.label := by
    rw [hlo, hcard]
    decide
  have hnamed : named "lo" [card, lo] = named "lo" [lo] := by
    simp [named, hlo, hcard]
  obtain ⟨hrecord, -, hdepends, hswap, -⟩ := snapshot_groups_by_name
  refine ⟨hne, hswap env [] lo card [] hne, hnamed,
    hdepends env env [card, lo] [lo] "lo" hnamed rfl rfl rfl, ?_, ?_⟩
  · rw [hrecord env [card, lo] "lo"]
    decide +kernel
  · rw [hrecord env [card, lo] "eth0"]
    decide +kernel

end LinkWatch.Host
