import NatP2P.Common.Run
import NatP2P.RelayNode.HostRoutes.Table

/-!
# How long a relay remembers what was announced

A relay takes an announcement only when it is newer than the record it holds for the same target and
origin. The record is all it remembers: a relay that lost it compares with nothing. An origin that
stops hosting a node announces that with an inactive announcement, and the record of that one is
what keeps older copies out that are still on their way.

A withdrawal deletes the record of the neighbour that sends it, and a lost neighbour deletes all
records that came from it, whether their leases have ended or not. After such a deletion an older
announcement is accepted over another link (`older_after_withdrawal`). Without one, what was
accepted bars everything older as long as its lease lasts (`run_accepts_nothing_older`).

Reference: `p2pnode/impl/relaynode/host_routes.go`.
-/

namespace NatP2P.RelayNode

open List Option

/-- The calls that change the table of a relay. -/
inductive TableCall
  | acceptHostRoute (via : Bytes) (route : HostRouteWire) (reading : Reading)
  | receiveHostWithdrawals (via : Bytes) (withdrawals : List HostRouteKey)
  | removeHostRoutesVia (peerID : Bytes) (order : RangeOrder)
  | expireHostRoutes

/-- A call and the time at which it holds `n.mu`. -/
structure TableEvent where
  now : ℤ
  call : TableCall

/-- The announcement of a call. -/
def TableEvent.offered (event : TableEvent) : Option HostRouteWire :=
  match event.call with
  | .acceptHostRoute _ route _ => some route
  | _ => none

/-- The table of a relay, with the time of the last call and all records that were ever stored. The
program keeps neither of the two. -/
structure Watch where
  table : Table
  clock : ℤ
  accepted : List HostRouteRecord

namespace Watch

variable (P : Packages)

/-- A new relay. -/
def start (clock : ℤ) : Watch := ⟨.empty, clock, []⟩

/-- One call; the output is the record that it stores. -/
def step (w : Watch) (event : TableEvent) : Watch × Option HostRouteRecord :=
  match event.call with
  | .acceptHostRoute via route reading =>
    match w.table.acceptHostRoute P via route reading with
    | none => ({ w with clock := event.now }, none)
    | some (table, _) => (⟨table, event.now, w.accepted ++ [⟨route, via⟩]⟩, some ⟨route, via⟩)
  | .receiveHostWithdrawals via withdrawals =>
    ({ w with table := (w.table.receiveHostWithdrawals via withdrawals).1, clock := event.now }, none)
  | .removeHostRoutesVia peerID order =>
    ({ w with table := (w.table.removeHostRoutesVia peerID order).1, clock := event.now }, none)
  | .expireHostRoutes =>
    ({ w with table := w.table.expireHostRoutes event.now, clock := event.now }, none)

/-- The relay behind a run. -/
def run (clock : ℤ) (events : List TableEvent) : Watch := (runSteps (step P) (start clock) events).1

end Watch

/-! ## The property -/

/-- The announcements of a run are those of origins that count within an incarnation: one that was
issued later has a larger sequence. -/
def Announced (events : List TableEvent) : Prop :=
  ∀ route ∈ events.filterMap TableEvent.offered, ∀ other ∈ events.filterMap TableEvent.offered,
    route.SameKey other → route.issuedAt < other.issuedAt → route.incarnation = other.incarnation →
      route.sequence < other.sequence

/-- A later announcement of an origin does not have the shorter lease. -/
def LeasesInOrder (events : List TableEvent) : Prop :=
  ∀ route ∈ events.filterMap TableEvent.offered, ∀ other ∈ events.filterMap TableEvent.offered,
    route.SameKey other → route.issuedAt ≤ other.issuedAt → route.leaseUntil ≤ other.leaseUntil

instance (events : List TableEvent) : Decidable (Announced events) :=
  inferInstanceAs (Decidable (∀ _ ∈ _, _))

instance (events : List TableEvent) : Decidable (LeasesInOrder events) :=
  inferInstanceAs (Decidable (∀ _ ∈ _, _))

/-- At every call of a run, as long as the lease of an announcement that was accepted before has not
ended, nothing older of the same origin and target is accepted, and nothing older is in the table,
from which everything is taken that is used or passed on. -/
def AcceptsNothingOlder (P : Packages) (clock : ℤ) (events : List TableEvent) : Prop :=
  ∀ before event after, events = before ++ event :: after →
    ∀ first ∈ (Watch.run P clock before).accepted, event.now < first.wire.leaseUntil →
      (∀ later, ((Watch.run P clock before).step P event).2 = some later →
        first.wire.SameKey later.wire → first.wire.issuedAt ≤ later.wire.issuedAt) ∧
      ∀ current, ((Watch.run P clock before).step P event).1.table.record first.wire.target
          first.wire.relayID = some current → first.wire.issuedAt ≤ current.wire.issuedAt

/-- The call takes the record out of the table, whether its lease has ended or not: the neighbour it
came from withdraws it, or is lost. -/
def TableCall.deletes (call : TableCall) (current : HostRouteRecord) : Bool :=
  match call with
  | .receiveHostWithdrawals via withdrawals =>
    via ≠ [] ∧ withdrawals.length ≤ maximumHostRouteBatch ∧ current.via = via ∧
      ⟨current.wire.target, current.wire.relayID⟩ ∈ withdrawals
  | .removeHostRoutesVia peerID _ => peerID ≠ [] ∧ current.via = peerID
  | _ => false

/-- A call at a time that is not before the last one. Every record in the table that it withdraws,
or that came from the neighbour it loses, has a lease that has ended. -/
def KeepsLeased (w : Watch) (event : TableEvent) : Prop :=
  w.clock ≤ event.now ∧
    ∀ current ∈ w.accepted,
      w.table.record current.wire.target current.wire.relayID = some current →
      event.call.deletes current = true → current.wire.leaseUntil ≤ event.now

instance (w : Watch) (event : TableEvent) : Decidable (KeepsLeased w event) :=
  inferInstanceAs (Decidable (_ ∧ _))

/-! ## What bars an older announcement -/

section

variable {P : Packages} {events : List TableEvent} {w : Watch} {event : TableEvent}

/-- The records come from accepted announcements, and of every accepted announcement whose lease
lasts there is a record that is not older and whose lease does not end earlier. -/
structure Watch.Inv (events : List TableEvent) (w : Watch) : Prop where
  stored : ∀ target relayID current, w.table.record target relayID = some current →
    current ∈ w.accepted ∧ current.wire.target = target ∧ current.wire.relayID = relayID
  offered : ∀ current ∈ w.accepted, current.wire ∈ events.filterMap TableEvent.offered
  barred : ∀ first ∈ w.accepted, w.clock < first.wire.leaseUntil →
    ∃ current, w.table.record first.wire.target first.wire.relayID = some current ∧
      first.wire.issuedAt ≤ current.wire.issuedAt ∧ first.wire.leaseUntil ≤ current.wire.leaseUntil

/-- What `newerHostRoute` accepts was not issued earlier. -/
theorem issuedAt_le_of_newer (hannounced : Announced events) {route other : HostRouteWire}
    (hroute : route ∈ events.filterMap TableEvent.offered)
    (hother : other ∈ events.filterMap TableEvent.offered) (hkey : route.SameKey other)
    (hnewer : newerHostRoute route.toHostRouteSignature other.toHostRouteSignature = true) :
    route.issuedAt ≤ other.issuedAt := by
  by_contra! hlt
  have hkey' : other.SameKey route := ⟨hkey.1.symm, hkey.2.symm⟩
  rw [newerHostRoute] at hnewer
  split_ifs at hnewer with hincarnation
  · have := of_decide_eq_true hnewer
    omega
  · have hsequence := hannounced other hother route hroute hkey' hlt (not_not.mp hincarnation)
    have := of_decide_eq_true hnewer
    omega

/-- What a call does to the table, and that the record it stores is remembered. -/
theorem Watch.step_change (P : Packages) (w : Watch) (event : TableEvent) :
    Table.Change w.table (w.step P event).1.table (w.step P event).2 ∧
      (w.step P event).1.accepted = w.accepted ++ (w.step P event).2.toList ∧
      ∀ stored ∈ (w.step P event).2, event.offered = some stored.wire := by
  obtain ⟨now, call⟩ := event
  cases call with
  | acceptHostRoute via route reading =>
    simp only [step]
    cases haccept : w.table.acceptHostRoute P via route reading with
    | none => exact ⟨.refl _, (append_nil _).symm, nofun⟩
    | some result =>
      refine ⟨Table.change_acceptHostRoute haccept, rfl, ?_⟩
      rintro stored ⟨⟩
      rfl
  | receiveHostWithdrawals via withdrawals =>
    exact ⟨w.table.change_receiveHostWithdrawals via withdrawals, (append_nil _).symm, nofun⟩
  | removeHostRoutesVia peerID order =>
    exact ⟨w.table.change_removeHostRoutesVia peerID order, (append_nil _).symm, nofun⟩
  | expireHostRoutes => exact ⟨w.table.change_retain _, (append_nil _).symm, nofun⟩

theorem Watch.clock_step : (w.step P event).1.clock = event.now := by
  obtain ⟨now, call⟩ := event
  cases call with
  | acceptHostRoute via route reading =>
    simp only [step]
    split <;> rfl
  | _ => rfl

/-- A call that stores nothing and does not delete a record keeps it as long as its lease lasts. -/
theorem Watch.record_step {target relayID : Bytes} {current : HostRouteRecord}
    (h : w.table.record target relayID = some current) (htarget : current.wire.target = target)
    (hrelay : current.wire.relayID = relayID) (hlease : event.now < current.wire.leaseUntil)
    (hkeep : event.call.deletes current = false) (hstored : (w.step P event).2 = none) :
    (w.step P event).1.table.record target relayID = some current := by
  obtain ⟨now, call⟩ := event
  cases call with
  | acceptHostRoute via route reading =>
    simp only [step] at hstored ⊢
    cases haccept : w.table.acceptHostRoute P via route reading with
    | none => exact h
    | some result =>
      rw [haccept] at hstored
      cases hstored
  | receiveHostWithdrawals via withdrawals =>
    simp only [step, Table.receiveHostWithdrawals]
    split_ifs with hignored
    · exact h
    · simp only [not_or, Nat.not_lt] at hignored
      refine Table.record_withdrawAll h fun hvia hmem => ?_
      simp [TableCall.deletes, hignored, hvia, htarget, hrelay, hmem] at hkeep
  | removeHostRoutesVia peerID order =>
    simp only [step, Table.removeHostRoutesVia]
    split_ifs with hself
    · exact h
    · rw [Table.record_retain, h, filter_eq_some_iff]
      simpa [TableCall.deletes, hself] using hkeep
  | expireHostRoutes =>
    simp only [step, Table.expireHostRoutes]
    rw [Table.record_retain, h, filter_eq_some_iff]
    exact ⟨rfl, decide_eq_true hlease⟩

variable (hannounced : Announced events) (hleases : LeasesInOrder events) (h : w.Inv events)
  (hmem : event ∈ events) (hkeeps : KeepsLeased w event)
include hannounced hleases h hmem hkeeps

/-- After a call, what bars an announcement before the call still does, or the stored one does. -/
theorem Watch.Inv.barred_step :
    ∀ first ∈ w.accepted, event.now < first.wire.leaseUntil →
      ∃ current, (w.step P event).1.table.record first.wire.target first.wire.relayID =
          some current ∧
        first.wire.issuedAt ≤ current.wire.issuedAt ∧
        first.wire.leaseUntil ≤ current.wire.leaseUntil := by
  intro first hfirst hlease
  obtain ⟨current, hcurrent, hissued, hleaseUntil⟩ :=
    h.barred first hfirst (lt_of_le_of_lt hkeeps.1 hlease)
  obtain ⟨hstored, htarget, hrelay⟩ := h.stored _ _ _ hcurrent
  obtain ⟨hchange, -, hoffered⟩ := step_change P w event
  generalize houtput : (w.step P event).2 = output at hchange hoffered
  cases hchange with
  | stored later hnewer hrecord =>
    rw [hrecord]
    split_ifs with hkey
    · -- the record that barred is replaced by one that passed the comparison with it
      rw [hkey.1, hkey.2] at hcurrent
      have hroute : later.wire ∈ events.filterMap TableEvent.offered :=
        mem_filterMap.mpr ⟨event, hmem, hoffered later rfl⟩
      have hsame : current.wire.SameKey later.wire := ⟨htarget.trans hkey.1, hrelay.trans hkey.2⟩
      have hle := issuedAt_le_of_newer hannounced (h.offered _ hstored) hroute hsame
        (hnewer current hcurrent)
      exact ⟨_, rfl, hissued.trans hle,
        hleaseUntil.trans (hleases _ (h.offered _ hstored) _ hroute hsame hle)⟩
    · exact ⟨current, hcurrent, hissued, hleaseUntil⟩
  | kept =>
    have hkept : event.call.deletes current = false := by
      by_contra hdeletes
      have := hkeeps.2 current hstored (by rw [htarget, hrelay, hcurrent])
        (Bool.eq_true_of_not_eq_false hdeletes)
      omega
    have hlasts : event.now < current.wire.leaseUntil := by omega
    exact ⟨current, record_step hcurrent htarget hrelay hlasts hkept houtput, hissued,
      hleaseUntil⟩

theorem Watch.Inv.step : (w.step P event).1.Inv events := by
  have hbarred := h.barred_step (P := P) hannounced hleases hmem hkeeps
  obtain ⟨hchange, haccepted, hoffered⟩ := step_change P w event
  generalize (w.step P event).2 = output at hchange haccepted hoffered
  have hnew : ∀ current ∈ (w.step P event).1.accepted, current ∈ w.accepted ∨ current ∈ output := by
    intro current hcurrent
    rw [haccepted, mem_append, mem_toList] at hcurrent
    exact hcurrent
  refine ⟨?_, ?_, ?_⟩
  · intro target relayID current hcurrent
    rw [haccepted, mem_append, mem_toList]
    cases hchange with
    | stored later hnewer hrecord =>
      rw [hrecord] at hcurrent
      split_ifs at hcurrent with hkey
      · obtain rfl := some.inj hcurrent
        exact ⟨.inr rfl, hkey.1.symm, hkey.2.symm⟩
      · obtain ⟨hstored, hkeys⟩ := h.stored _ _ _ hcurrent
        exact ⟨.inl hstored, hkeys⟩
    | kept hrecord =>
      obtain ⟨hstored, hkeys⟩ := h.stored _ _ _ (hrecord _ _ _ hcurrent)
      exact ⟨.inl hstored, hkeys⟩
  · intro current hcurrent
    rcases hnew current hcurrent with hold | hlater
    · exact h.offered current hold
    · exact mem_filterMap.mpr ⟨event, hmem, hoffered current hlater⟩
  · intro first hfirst hlease
    rw [clock_step] at hlease
    rcases hnew first hfirst with hold | hlater
    · exact hbarred first hold hlease
    · cases hchange with
      | stored later hnewer hrecord =>
        obtain rfl := some.inj hlater
        exact ⟨_, by rw [hrecord, if_pos ⟨rfl, rfl⟩], le_rfl, le_rfl⟩
      | kept => cases hlater

end

/-- In every run in which the clock does not go back, later announcements do not have shorter leases
and every record that is withdrawn, or that came from a lost neighbour, has a lease that has ended,
what was accepted bars everything older as long as its lease lasts. -/
theorem run_accepts_nothing_older (P : Packages) (clock : ℤ) (events : List TableEvent)
    (hannounced : Announced events) (hleases : LeasesInOrder events)
    (hkeeps : Along (Watch.step P) KeepsLeased (Watch.start clock) events) :
    AcceptsNothingOlder P clock events := by
  rintro before event after rfl first hfirst hlease
  obtain ⟨hbefore, hevent, -⟩ := along_append.mp hkeeps
  have hinv : (Watch.run P clock before).Inv (before ++ event :: after) := by
    have hbefore' : Along (Watch.step P) (fun w other => other ∈ before ∧ KeepsLeased w other)
        (Watch.start clock) before := along_mono (fun _ _ hmem h => ⟨hmem, h⟩) hbefore
    refine runSteps_along hbefore' ?_ ?_
    · exact ⟨fun _ _ _ h => by simp [Watch.start] at h, nofun, nofun⟩
    · rintro w other ⟨hother, hother'⟩ hw
      exact hw.step hannounced hleases (mem_append_left _ hother) hother'
  obtain ⟨current, hcurrent, hissued, -⟩ :=
    hinv.barred_step hannounced hleases (by simp) hevent first hfirst hlease
  refine ⟨?_, ?_⟩
  · -- what the call stores is the record behind it
    intro later hlater hkey
    have hchange := (Watch.step_change P (Watch.run P clock before) event).1
    rw [hlater] at hchange
    cases hchange with
    | stored _ hnewer hrecord =>
      rw [hrecord, if_pos ⟨hkey.1, hkey.2⟩] at hcurrent
      obtain rfl := some.inj hcurrent
      exact hissued
  · intro other hother
    obtain rfl := mem_unique hcurrent hother
    exact hissued

/-! ## Runs to evaluate -/

/-- The older announcement is active, the newer one, one second later, is not. Both are from relay 1
for target 0. -/
def sampleOlder : HostRouteWire := sampleRoute 0 1 1 100 true

@[inherit_doc sampleOlder]
def sampleNewer : HostRouteWire := sampleRoute 0 1 2 101 false

/-- A call of a sample run, at a second. -/
def sampleCall (second : ℤ) (call : TableCall) : TableEvent := ⟨second * 1000000000, call⟩

/-- An announcement that comes from a relay at a second. -/
def sampleAccept (second : ℤ) (via : ℕ) (route : HostRouteWire) : TableEvent :=
  sampleCall second (.acceptHostRoute (sampleRelay via) route
    ⟨second * 1000000000, second * 1000000000, true⟩)

/-- The newer announcement comes from relay 2, which then loses its own link and withdraws it. After
that the older one comes from relay 3. -/
def sampleWithdrawal : List TableEvent :=
  [sampleAccept 102 2 sampleNewer,
    sampleCall 103 (.receiveHostWithdrawals (sampleRelay 2) [⟨sampleTarget 0, sampleRelay 1⟩]),
    sampleAccept 104 3 sampleOlder]

/-- Both announcements come, the older one twice and over two links. Relay 2 withdraws when the
leases have ended. -/
def sampleLeased : List TableEvent :=
  [sampleAccept 101 2 sampleOlder, sampleAccept 102 2 sampleNewer, sampleAccept 103 3 sampleOlder,
    sampleCall 120 .expireHostRoutes, sampleAccept 121 2 sampleOlder,
    sampleCall 150 (.receiveHostWithdrawals (sampleRelay 2) [⟨sampleTarget 0, sampleRelay 1⟩])]

/-- After a withdrawal the older announcement is accepted, and may be used, before the lease of the
newer one that said the node is gone has ended. -/
theorem older_after_withdrawal :
    Announced sampleWithdrawal ∧ LeasesInOrder sampleWithdrawal ∧
      ¬ AcceptsNothingOlder .sample 0 sampleWithdrawal ∧
      (Watch.run .sample 0 sampleWithdrawal).table.record (sampleTarget 0) (sampleRelay 1) =
        some ⟨sampleOlder, sampleRelay 3⟩ ∧
      (⟨sampleOlder, sampleRelay 3⟩ : HostRouteRecord).usable 104000000000 = true ∧
      104000000000 < sampleNewer.leaseUntil := by
  refine ⟨by decide +kernel, by decide +kernel, ?_, by decide +kernel, by decide +kernel,
    by decide +kernel⟩
  intro h
  have hnewer := (h (sampleWithdrawal.take 2) (sampleAccept 104 3 sampleOlder) [] rfl
    ⟨sampleNewer, sampleRelay 2⟩ (by decide +kernel) (by decide +kernel)).1
    ⟨sampleOlder, sampleRelay 3⟩ (by decide +kernel) (by decide +kernel)
  revert hnewer
  decide +kernel

theorem run_accepts_nothing_older_leased : AcceptsNothingOlder .sample 0 sampleLeased :=
  run_accepts_nothing_older .sample 0 sampleLeased (by decide +kernel) (by decide +kernel)
    (by decide +kernel)

end NatP2P.RelayNode
