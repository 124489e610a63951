import NatP2P.Network.Holdback.Effects
import Mathlib.Tactic.Abel

/-!
# The accounting of the holdback

Reference: `networkFrameWork/billing_holdback.go`.

Every operation changes the entries at one key and the counters by the difference of what the old
and the new entry are counted with. `Sums.exchange` is this argument; the counters of the holdback,
of a connection and of a node are instances of it. Around it stand the shape of the entries, the
list of the approved ones and the limits, which only `add` and `approve` can come close to.
-/

namespace NatP2P.Network

open List GoMap Option

/-! ## What is counted -/

variable {bytes : ℤ} {size total : ℕ} {key : HoldbackKey} {e' : Entry}

namespace Usage

/-- The counters, as homomorphisms. -/
def pendingBytesHom : Usage →+ ℤ := ⟨⟨pendingBytes, rfl⟩, add_pendingBytes⟩
@[inherit_doc pendingBytesHom]
def pendingMessagesHom : Usage →+ ℤ := ⟨⟨pendingMessages, rfl⟩, add_pendingMessages⟩
@[inherit_doc pendingBytesHom]
def pendingFramesHom : Usage →+ ℤ := ⟨⟨pendingFrames, rfl⟩, add_pendingFrames⟩
@[inherit_doc pendingBytesHom]
def approvedBytesHom : Usage →+ ℤ := ⟨⟨approvedBytes, rfl⟩, add_approvedBytes⟩
@[inherit_doc pendingBytesHom]
def approvedMessagesHom : Usage →+ ℤ := ⟨⟨approvedMessages, rfl⟩, add_approvedMessages⟩

/-- No counter is negative. -/
structure Nonneg (u : Usage) : Prop where
  pendingBytes : 0 ≤ u.pendingBytes
  pendingMessages : 0 ≤ u.pendingMessages
  pendingFrames : 0 ≤ u.pendingFrames
  approvedBytes : 0 ≤ u.approvedBytes
  approvedMessages : 0 ≤ u.approvedMessages

/-- The counters of what is pending are below the limits. -/
structure PendingWithin (u limit : Usage) : Prop where
  pendingBytes : u.pendingBytes ≤ limit.pendingBytes
  pendingMessages : u.pendingMessages ≤ limit.pendingMessages
  pendingFrames : u.pendingFrames ≤ limit.pendingFrames

/-- The counters of what is approved are below the limits. -/
structure ApprovedWithin (u limit : Usage) : Prop where
  approvedBytes : u.approvedBytes ≤ limit.approvedBytes
  approvedMessages : u.approvedMessages ≤ limit.approvedMessages

variable {u v limit : Usage} {messages : ℤ}

theorem PendingWithin.sub (h : u.PendingWithin limit) (hv : v.Nonneg) :
    (u + -v).PendingWithin limit where
  pendingBytes := add_le_of_le_of_nonpos h.pendingBytes (neg_nonpos.mpr hv.pendingBytes)
  pendingMessages := add_le_of_le_of_nonpos h.pendingMessages (neg_nonpos.mpr hv.pendingMessages)
  pendingFrames := add_le_of_le_of_nonpos h.pendingFrames (neg_nonpos.mpr hv.pendingFrames)

/-- There is room for a frame. -/
structure Room (u : Usage) (size : ℕ) (limit : Usage) : Prop where
  pendingBytes : u.pendingBytes + size ≤ limit.pendingBytes
  pendingFrames : u.pendingFrames < limit.pendingFrames

theorem Room.within (h : u.Room size limit) (hu : u.PendingWithin limit) :
    (u + ⟨size, 0, 1, 0, 0⟩).PendingWithin limit where
  pendingBytes := h.pendingBytes
  pendingMessages := by simpa using hu.pendingMessages
  pendingFrames := h.pendingFrames

theorem PendingWithin.message (h : u.PendingWithin limit)
    (hroom : u.pendingMessages < limit.pendingMessages) :
    (u + ⟨0, 1, 0, 0, 0⟩).PendingWithin limit where
  pendingBytes := by simpa using h.pendingBytes
  pendingMessages := hroom
  pendingFrames := by simpa using h.pendingFrames

theorem Room.message (h : u.Room size limit) : (u + ⟨0, 1, 0, 0, 0⟩).Room size limit where
  pendingBytes := by simpa using h.pendingBytes
  pendingFrames := by simpa using h.pendingFrames

theorem ApprovedWithin.add_pending {frames : ℤ} (h : u.ApprovedWithin limit) :
    (u + ⟨bytes, messages, frames, 0, 0⟩).ApprovedWithin limit where
  approvedBytes := by simpa using h.approvedBytes
  approvedMessages := by simpa using h.approvedMessages

/-- What was pending becomes approved. -/
theorem PendingWithin.exchange (h : u.PendingWithin limit) (hv : v.Nonneg) :
    (u + (⟨0, 0, 0, bytes, messages⟩ - v)).PendingWithin limit := by
  obtain ⟨hbytes, hmessages, hframes⟩ := h.sub hv
  rw [sub_eq_add_neg]
  constructor <;> simp_all

theorem ApprovedWithin.sub (h : u.ApprovedWithin limit) (hv : v.Nonneg) :
    (u + -v).ApprovedWithin limit where
  approvedBytes := add_le_of_le_of_nonpos h.approvedBytes (neg_nonpos.mpr hv.approvedBytes)
  approvedMessages := add_le_of_le_of_nonpos h.approvedMessages (neg_nonpos.mpr hv.approvedMessages)

end Usage

/-- The limits of the counters of the holdback. -/
def Limits.global (l : Limits) : Usage :=
  ⟨l.maxGlobalBytes, l.maxGlobalMessages, l.maxGlobalFrames, l.maxApprovedFingerprintBytes,
    l.maxApprovedMessages⟩

/-- The limits of the counters of a connection. -/
def Limits.connection (l : Limits) : Usage :=
  ⟨l.maxConnectionBytes, l.maxConnectionMessages, l.maxConnectionFrames,
    l.maxConnectionApprovedFingerprintBytes, l.maxConnectionApprovedMessages⟩

theorem Limits.pendingWithin_zero (l : Limits) : (0 : Usage).PendingWithin l.connection := by
  constructor <;> exact Int.natCast_nonneg _

theorem Limits.approvedWithin_zero (l : Limits) : (0 : Usage).ApprovedWithin l.connection := by
  constructor <;> exact Int.natCast_nonneg _

namespace Entry

/-- What the entry is counted with on a connection. -/
def usageOn (ck : ConnectionKey) (e : Entry) : Usage := if e.key.connection = ck then e.usage else 0

/-- What the entry is counted with for a node. -/
def onNode (nodeID : Bytes) (e : Entry) : ℤ := if e.key.nodeID = nodeID then 1 else 0

/-- An entry is pending or approved. The digests are those of the frames of a pending entry, and of
nothing outside the message. -/
structure Shaped (limits : Limits) (e : Entry) : Prop where
  pending : e.pending = !e.approved
  approvedItem : e.approvedItem = e.approved
  totalFrames : e.totalFrames ≤ limits.maxMessageFrames
  digests : e.digests.keys ⊆ Finset.range e.totalFrames
  frames : e.pending → e.frames.keys = e.digests.keys
  bytes : e.bytes = e.frames.total fun f => (f.payload.length : ℤ)
  short : e.bytes ≤ limits.maxMessageBytes
  fingerprintBytes : e.approved → e.fingerprintBytes = e.digests.len * digestSize

/-- The entry without the fields that the books do not read. -/
def books (e : Entry) : Entry :=
  { e with
    validating := false
    deferred := false
    deferredSince := none
    retryAfter := 0
    deferCount := 0
    message := none
    timer := none
    timerGeneration := 0 }

variable {limits : Limits} {e : Entry} {C : Crypto} {frame : Frame}

/-- What is counted on a connection for a key. -/
theorem elim_usageOn {o : Option Entry} {ck : ConnectionKey} (hkey : ∀ e, o = some e → e.key = key) :
    o.elim 0 (usageOn ck) = if key.connection = ck then o.elim 0 usage else 0 := by
  cases o with
  | none => simp
  | some e => simp [usageOn, hkey e rfl]

theorem shaped_books : e.books.Shaped limits ↔ e.Shaped limits := by
  constructor <;>
  · rintro ⟨hpending, hitem, htotal, hdigests, hframes, hbytes, hshort, hfingerprint⟩
    exact ⟨hpending, hitem, htotal, hdigests, hframes, hbytes, hshort, hfingerprint⟩

/-- What entries with the same books have in common. -/
theorem same_books (h : e'.books = e.books) :
    e'.key = e.key ∧ e'.ref = e.ref ∧ e'.approved = e.approved ∧ e'.usage = e.usage := by
  have hfield : ∀ {α : Type} (f : Entry → α), f e'.books = f e.books := fun f => congrArg f h
  exact ⟨hfield key, hfield ref, hfield approved, hfield usage⟩

theorem Shaped.bytes_nonneg (h : e.Shaped limits) : 0 ≤ e.bytes := by
  rw [h.bytes]
  exact total_nonneg fun _ f _ => Int.natCast_nonneg f.payload.length

theorem usage_of_pending (hpending : e.pending) (happroved : e.approved = false) :
    e.usage = e.pendingUsage := by
  rw [usage, if_pos hpending, happroved, if_neg Bool.false_ne_true, add_zero]

theorem usage_of_approved (hpending : e.pending = false) (happroved : e.approved) :
    e.usage = e.approvedUsage := by
  rw [usage, if_pos happroved, hpending, if_neg Bool.false_ne_true, zero_add]

/-- An entry is counted as pending or as approved, not as both. -/
theorem Shaped.usage_cases (h : e.Shaped limits) :
    (e.pending ∧ e.approved = false ∧ e.usage = e.pendingUsage) ∨
      (e.pending = false ∧ e.approved ∧ e.usage = e.approvedUsage) := by
  have hpending := h.pending
  rcases Bool.eq_false_or_eq_true e.approved with happroved | happroved
  · rw [happroved, Bool.not_true] at hpending
    exact .inr ⟨hpending, happroved, usage_of_approved hpending happroved⟩
  · rw [happroved, Bool.not_false] at hpending
    exact .inl ⟨hpending, happroved, usage_of_pending hpending happroved⟩

theorem Shaped.unapproved (h : e.Shaped limits) (hpending : e.pending) : e.approved = false := by
  rcases h.usage_cases with ⟨-, happroved, -⟩ | ⟨hnot, -, -⟩
  · exact happroved
  · rw [hpending] at hnot
    cases hnot

theorem Shaped.usage_nonneg (h : e.Shaped limits) : e.usage.Nonneg := by
  have hbytes := h.bytes_nonneg
  rcases h.usage_cases with ⟨-, -, husage⟩ | ⟨-, happroved, husage⟩
  · rw [husage]
    constructor <;> simp [pendingUsage, hbytes]
  · have hfingerprint := h.fingerprintBytes happroved
    rw [husage]
    constructor <;> simp only [approvedUsage, hfingerprint] <;> positivity

/-- Every entry counts as one message. -/
theorem Shaped.counts_once (h : e.Shaped limits) :
    e.usage.pendingMessages + e.usage.approvedMessages = 1 := by
  rcases h.usage_cases with ⟨-, -, husage⟩ | ⟨-, -, husage⟩ <;> rw [husage] <;> rfl

theorem shaped_new {ref : ℕ}
    (htotal : total ≤ limits.maxMessageFrames) : (Entry.new ref key total).Shaped limits where
  pending := rfl
  approvedItem := rfl
  totalFrames := htotal
  digests := Finset.empty_subset _
  frames _ := rfl
  bytes := rfl
  short := Int.natCast_nonneg _
  fingerprintBytes := nofun

theorem Shaped.approve (hs : e.Shaped limits) : e.approve.Shaped limits where
  pending := rfl
  approvedItem := rfl
  totalFrames := hs.totalFrames
  digests := hs.digests
  frames := nofun
  bytes := rfl
  short := Int.natCast_nonneg _
  fingerprintBytes _ := rfl

/-- An entry takes a frame of its message that it does not have. -/
theorem Shaped.take (hs : e.Shaped limits) (hpending : e.pending)
    (hnew : e.digests.get frame.seqId = none) (hseq : frame.seqId < e.totalFrames)
    (hshort : e.bytes + frame.payload.length ≤ limits.maxMessageBytes) :
    (e.take C frame).Shaped limits where
  pending := hs.pending
  approvedItem := hs.approvedItem
  totalFrames := hs.totalFrames
  digests := Finset.insert_subset (Finset.mem_range.mpr hseq) hs.digests
  frames _ := congrArg (Insert.insert frame.seqId) (hs.frames hpending)
  bytes := by
    have hnone : e.frames.get frame.seqId = none := by
      have hmem : frame.seqId ∉ e.frames.keys := by
        rw [hs.frames hpending, e.digests.mem_keys, hnew]
        simp
      simpa [e.frames.mem_keys] using hmem
    have hset : ∀ i, i ≠ frame.seqId → (e.frames.set frame.seqId frame).get i = e.frames.get i :=
      fun _ => get_set_ne
    have htotal := total_exchange (f := fun f => (f.payload.length : ℤ)) hset
    rw [hnone, get_set_self, elim_none, elim_some, add_zero, ← hs.bytes] at htotal
    exact htotal.symm
  short := hshort
  fingerprintBytes happroved := by
    rw [Entry.take, hs.unapproved hpending] at happroved
    cases happroved

theorem take_usage (hpending : e.pending) (happroved : e.approved = false)
    (hnew : e.digests.get frame.seqId = none) :
    e.usage + ⟨frame.payload.length, 0, 1, 0, 0⟩ = (e.take C frame).usage := by
  have hmem : frame.seqId ∉ e.digests.keys := by simp [e.digests.mem_keys, hnew]
  have hlen : (e.take C frame).digests.len = e.digests.len + 1 := Finset.card_insert_of_notMem hmem
  rw [usage_of_pending hpending happroved,
    usage_of_pending (e := e.take C frame) hpending happroved]
  ext <;> simp [pendingUsage, hlen]
  rfl

end Entry

namespace Holdback

/-- The counters of a connection. -/
def usageOf (h : Holdback) (ck : ConnectionKey) : Option Usage :=
  (h.connections.get ck).map HoldbackConnection.usage

/-! ## Counters and entries -/

/-- Counters are sums over the entries. -/
structure Sums (h : Holdback) : Prop where
  keyed : ∀ k e, h.entries.get k = some e → e.key = k
  usage : h.usage = h.entries.total Entry.usage
  usageOf : ∀ ck u, h.usageOf ck = some u → u = h.entries.total (Entry.usageOn ck)
  connected : ∀ k e, h.entries.get k = some e → (h.usageOf k.connection).isSome
  byNode : ∀ n, h.nodeEntries n = h.entries.total (Entry.onNode n)

variable {h' : Holdback} {k : HoldbackKey} {u' limit u : Usage} {f : Entry → Usage}
  {ck : ConnectionKey}

/-- The entries change at one key, and all counters by the difference that this makes. -/
theorem Sums.exchange {h : Holdback} (hs : h.Sums) (delta : Usage)
    (hothers : ∀ k', k' ≠ k → h'.entries.get k' = h.entries.get k')
    (hkey : ∀ e, h'.entries.get k = some e → e.key = k)
    (hdelta : (h.entries.get k).elim 0 Entry.usage + delta = (h'.entries.get k).elim 0 Entry.usage)
    (husage : h'.usage = h.usage + delta) (husageOf : ∀ ck, h'.usageOf ck =
      (h.usageOf ck).map fun u => if k.connection = ck then u + delta else u)
    (hconnected : (h'.entries.get k).isSome → (h.usageOf k.connection).isSome)
    (hnode : ∀ n, h'.nodeEntries n + (h.entries.get k).elim 0 (Entry.onNode n) =
      h.nodeEntries n + (h'.entries.get k).elim 0 (Entry.onNode n)) : h'.Sums where
  keyed k' e he := by
    by_cases hk : k' = k
    · subst hk
      exact hkey e he
    · exact hs.keyed k' e (hothers k' hk ▸ he)
  usage := by
    have htotal := total_exchange (f := Entry.usage) hothers
    rw [← hs.usage, ← hdelta, ← add_assoc] at htotal
    rw [husage, ← add_right_cancel_iff, htotal]
    abel
  usageOf ck u' hu' := by
    rw [husageOf, map_eq_some_iff] at hu'
    obtain ⟨u, hu, rfl⟩ := hu'
    have htotal := total_exchange (f := Entry.usageOn ck) hothers
    rw [← hs.usageOf ck u hu] at htotal
    rw [Entry.elim_usageOn (hs.keyed k), Entry.elim_usageOn hkey, ← hdelta] at htotal
    by_cases hck : k.connection = ck
    · simp only [if_pos hck] at htotal ⊢
      rw [← add_right_cancel_iff, htotal]
      abel
    · simp only [if_neg hck, add_zero] at htotal ⊢
      exact htotal.symm
  connected k' e he := by
    rw [husageOf, isSome_map]
    by_cases hk : k' = k
    · subst hk
      exact hconnected (he ▸ rfl)
    · exact hs.connected k' e (hothers k' hk ▸ he)
  byNode n := by
    have htotal := total_exchange (f := Entry.onNode n) hothers
    rw [← hs.byNode n] at htotal
    have hn := hnode n
    omega

/-! ## The invariant -/

/-- The counters of the holdback and of every connection are below their limits. -/
structure Within (h : Holdback) (within : Usage → Usage → Prop) : Prop where
  global : within h.usage h.limits.global
  connection : ∀ ck u, h.usageOf ck = some u → within u h.limits.connection

/-- The books are right. The limits for what is approved are not part of it, because `approve`
exceeds them before it evicts. -/
structure Ledger (h : Holdback) : Prop extends h.Sums where
  shaped : ∀ k e, h.entries.get k = some e → e.Shaped h.limits
  listed : ∀ p, p ∈ h.approved ↔ ∃ e, h.entry p = some e ∧ e.approved
  once : h.approved.Nodup
  pendingLimits : h.Within Usage.PendingWithin
  connections : h.connections.len ≤ h.limits.maxConnections

/-- The books are right and all limits are kept. -/
structure Accounted (h : Holdback) : Prop extends h.Ledger where
  approvedLimits : h.Within Usage.ApprovedWithin

variable {within : Usage → Usage → Prop}

section Neutral

variable {h h' : Holdback} {ck : ConnectionKey} {c c' : HoldbackConnection}

theorem usageOf_of_get (hc : h.connections.get ck = some c) : h.usageOf ck = some c.usage := by
  rw [usageOf, hc]
  rfl

theorem usageOf_putConnection (h : Holdback) (ck : ConnectionKey) (c : HoldbackConnection)
    (ck' : ConnectionKey) :
    (h.putConnection ck c).usageOf ck' = if ck' = ck then some c.usage else h.usageOf ck' := by
  rw [usageOf, putConnection, get_set]
  split_ifs <;> rfl

theorem usageOf_putConnection_self (hc : h.connections.get ck = some c) (husage : c'.usage = c.usage) :
    (h.putConnection ck c').usageOf = h.usageOf := by
  funext ck'
  rw [usageOf_putConnection]
  split_ifs with hck
  · rw [hck, usageOf, hc, husage]
    rfl
  · rfl

theorem len_putConnection_self (hc : h.connections.get ck = some c) (c' : HoldbackConnection) :
    (h.putConnection ck c').connections.len = h.connections.len := by
  have hmem : ck ∈ h.connections.keys := (h.connections.mem_keys ck).mpr (by rw [hc]; rfl)
  exact congrArg Finset.card (Finset.insert_eq_of_mem hmem)

theorem Ledger.putConnection (hl : h.Ledger) (hc : h.connections.get ck = some c)
    (c' : HoldbackConnection) (husage : c'.usage = c.usage) : (h.putConnection ck c').Ledger := by
  have husageOf := usageOf_putConnection_self hc husage
  refine { hl with
    usageOf := ?_
    connected := ?_
    pendingLimits := ⟨hl.pendingLimits.global, ?_⟩
    connections := (len_putConnection_self hc c').le.trans hl.connections }
  all_goals rw [husageOf]
  · exact hl.usageOf
  · exact hl.connected
  · exact hl.pendingLimits.connection

theorem Ledger.no_entries (hl : h.Ledger) (hc : h.connections.get ck = some c)
    (hpending : c.usage.pendingMessages = 0) (happroved : c.usage.approvedMessages = 0)
    (k : HoldbackKey) (e : Entry) (he : h.entries.get k = some e) : k.connection ≠ ck := by
  intro hck
  -- every entry of the connection adds one to the sum of the two counters, which is zero
  let messages : Usage →+ ℤ := Usage.pendingMessagesHom + Usage.approvedMessagesHom
  have hmessages : ∀ e' : Entry, e'.Shaped h.limits → messages e'.usage = 1 :=
    fun e' hshaped => hshaped.counts_once
  have hzero : messages c.usage = 0 := by
    show c.usage.pendingMessages + c.usage.approvedMessages = 0
    rw [hpending, happroved]
    rfl
  rw [hl.usageOf ck c.usage (usageOf_of_get hc), map_total] at hzero
  have hle := le_total (f := fun e => messages (Entry.usageOn ck e)) ?_ he
  · rw [hzero, Entry.usageOn, if_pos (by rw [hl.keyed k e he]; exact hck),
      hmessages e (hl.shaped k e he)] at hle
    exact absurd hle (by decide)
  · intro k' e' he'
    show 0 ≤ messages (Entry.usageOn ck e')
    rw [Entry.usageOn]
    split_ifs
    · rw [hmessages e' (hl.shaped k' e' he')]
      exact Int.one_nonneg
    · rw [map_zero]

theorem usageOf_delete (h : Holdback) (ck ck' : ConnectionKey) :
    { h with connections := h.connections.delete ck }.usageOf ck' =
      if ck' = ck then none else h.usageOf ck' := by
  rw [usageOf, get_delete]
  split_ifs <;> rfl

/-- Limits that the counters met before are met afterwards. -/
structure Eases (within : Usage → Usage → Prop) (h h' : Holdback) : Prop where
  limits : h'.limits = h.limits
  global : ∀ limit, within h.usage limit → within h'.usage limit
  connection : ∀ ck limit, (∀ u, h.usageOf ck = some u → within u limit) →
    ∀ u, h'.usageOf ck = some u → within u limit

theorem Eases.refl (h : Holdback) : Eases within h h :=
  ⟨rfl, fun _ => id, fun _ _ => id⟩

theorem Eases.trans {h'' : Holdback} (he : Eases within h h') (he' : Eases within h' h'') :
    Eases within h h'' where
  limits := he'.limits.trans he.limits
  global limit hw := he'.global limit (he.global limit hw)
  connection ck limit hw := he'.connection ck limit (he.connection ck limit hw)

theorem Within.eased (hw : h.Within within) (he : Eases within h h') : h'.Within within := by
  obtain ⟨hlimits, hglobal, hconnection⟩ := he
  refine ⟨?_, fun ck => ?_⟩
  · rw [hlimits]
    exact hglobal _ hw.global
  · rw [hlimits]
    exact hconnection ck _ (hw.connection ck)

theorem eases_dropConnection (h : Holdback) (ck : ConnectionKey) :
    Eases within h { h with connections := h.connections.delete ck } := by
  refine ⟨rfl, fun _ => id, fun ck' limit hw u hu => ?_⟩
  rw [usageOf_delete] at hu
  split_ifs at hu
  exact hw u hu

theorem eases_removeIdleConnection (h : Holdback) (ck : ConnectionKey) :
    Eases within h (h.removeIdleConnection ck) := by
  rcases removeIdleConnection_eq h ck with heq | ⟨-, -, -, heq⟩ <;> rw [heq]
  · exact .refl h
  · exact eases_dropConnection h ck

/-- A connection without entries can be dropped. -/
theorem Ledger.dropConnection (hl : h.Ledger)
    (hnone : ∀ k e, h.entries.get k = some e → k.connection ≠ ck) :
    { h with connections := h.connections.delete ck }.Ledger := by
  refine { hl with
    usageOf := fun ck' u hu => ?_
    connected := fun k e he => ?_
    pendingLimits := hl.pendingLimits.eased (eases_dropConnection h ck)
    connections := (Finset.card_erase_le).trans hl.connections }
  · rw [usageOf_delete] at hu
    split_ifs at hu
    exact hl.usageOf ck' u hu
  · rw [usageOf_delete, if_neg (hnone k e he)]
    exact hl.connected k e he

theorem Ledger.removeIdleConnection (hl : h.Ledger) (ck : ConnectionKey) :
    (h.removeIdleConnection ck).Ledger := by
  rcases removeIdleConnection_eq h ck with heq | ⟨c, hc, hbusy, heq⟩
  · rw [heq]
    exact hl
  · simp only [HoldbackConnection.busy, Bool.or_eq_false_iff, decide_eq_false_iff_not, ne_eq,
      not_not] at hbusy
    rw [heq]
    exact hl.dropConnection (hl.no_entries hc hbusy.1.1.1 hbusy.1.2)

end Neutral

/-! ## Entries change -/

section Entries

variable {h : Holdback} {k : HoldbackKey} {p : EntryRef} {e e' : Entry}

theorem usageOf_count (h : Holdback) (ck : ConnectionKey) (delta : Usage) (ck' : ConnectionKey) :
    (h.count ck delta).usageOf ck' =
      (h.usageOf ck').map fun u => if ck = ck' then u + delta else u := by
  simp only [usageOf, count]
  by_cases hck : ck = ck'
  · subst hck
    cases hc : h.connections.get ck <;> simp [hc]
  · cases h.connections.get ck <;> simp [hck, get_set_ne (Ne.symm hck)] <;> rfl

theorem len_count (h : Holdback) (ck : ConnectionKey) (delta : Usage) :
    (h.count ck delta).connections.len = h.connections.len := by
  simp only [count]
  split
  · next c hc => exact len_putConnection_self hc { c with usage := c.usage + delta }
  · rfl

/-- One entry is written and the counters follow. -/
theorem Ledger.exchange (hl : h.Ledger) (e' : Entry) (delta : Usage)
    (hlimits : h'.limits = h.limits) (hentries : h'.entries = h.entries.set e'.key e')
    (hdelta : (h.entries.get e'.key).elim 0 Entry.usage + delta = e'.usage)
    (husage : h'.usage = h.usage + delta) (husageOf : ∀ ck, h'.usageOf ck =
      (h.usageOf ck).map fun u => if e'.key.connection = ck then u + delta else u)
    (hconnected : (h.usageOf e'.key.connection).isSome)
    (hnode : ∀ n, h'.nodeEntries n + (h.entries.get e'.key).elim 0 (Entry.onNode n) =
      h.nodeEntries n + Entry.onNode n e')
    (hshaped : e'.Shaped h.limits)
    (hlisted : ∀ p, p ∈ h'.approved ↔ ∃ e, (h.put e').entry p = some e ∧ e.approved)
    (honce : h'.approved.Nodup) (hpending : h'.Within Usage.PendingWithin)
    (hlen : h'.connections.len ≤ h.connections.len) : h'.Ledger := by
  have hself : h'.entries.get e'.key = some e' := by rw [hentries, get_set_self]
  have hothers : ∀ k, k ≠ e'.key → h'.entries.get k = h.entries.get k := by
    intro k hk
    rw [hentries, get_set_ne hk]
  refine { hl.toSums.exchange delta hothers ?_ ?_ husage husageOf ?_ ?_ with
    shaped := ?_, listed := ?_, once := honce, pendingLimits := hpending, connections := ?_ }
  · intro e he
    rw [hself, some.injEq] at he
    rw [he]
  · rw [hself, hdelta]
    rfl
  · intro _
    exact hconnected
  · rw [hself]
    exact hnode
  · intro k e he
    rw [hlimits]
    by_cases hk : k = e'.key
    · rw [hk, hself, some.injEq] at he
      exact he ▸ hshaped
    · exact hl.shaped k e (hothers k hk ▸ he)
  · intro p
    rw [hlisted p, entry, entry, hentries]
    rfl
  · rw [hlimits]
    exact hlen.trans hl.connections

/-- An entry that keeps its number and its class leaves the list as it was. -/
theorem Ledger.listed_put (hl : h.Ledger) (he : h.entries.get e'.key = some e)
    (href : e'.ref = e.ref) (happroved : e'.approved = e.approved) (p : EntryRef) :
    p ∈ h.approved ↔ ∃ e, (h.put e').entry p = some e ∧ e.approved := by
  rw [hl.listed p, entry_put, href]
  split_ifs with hp hr
  · have hentry : h.entry p = some e := entry_eq_some.mpr ⟨hp ▸ he, hr⟩
    simp [hentry, happroved]
  · have hentry : h.entry p = none := by
      rw [entry, hp, he]
      simp [hr]
    simp [hentry]
  · rfl

/-- An entry is changed in a way that does not matter to the books. -/
theorem Ledger.amend (hl : h.Ledger) (he : h.entries.get k = some e)
    (hbooks : e'.books = e.books) : (h.put e').Ledger := by
  obtain ⟨hkey, href, happroved, husage⟩ := Entry.same_books hbooks
  rw [← hl.keyed k e he, ← hkey] at he
  have hshaped : e'.Shaped h.limits := by
    rw [← Entry.shaped_books, hbooks, Entry.shaped_books]
    exact hl.shaped _ e he
  refine hl.exchange e' 0 rfl rfl ?_ (add_zero _).symm ?_ (hl.connected _ e he) ?_ hshaped
    (hl.listed_put he href happroved) hl.once ⟨hl.pendingLimits.global,
      hl.pendingLimits.connection⟩ le_rfl
  · rw [he, add_zero]
    exact husage.symm
  · intro ck
    simp only [add_zero, ite_self]
    exact map_id'.symm
  · intro n
    rw [he]
    simp only [elim_some, Entry.onNode, hkey]
    rfl

/-- The same, right behind another change. -/
theorem Ledger.amend_put (hl : (h.put e).Ledger) (hbooks : e'.books = e.books) :
    (h.put e').Ledger := by
  have hkey : e'.key = e.key := (Entry.same_books hbooks).1
  have hput : (h.put e).put e' = h.put e' := by
    simp only [put, hkey, GoMap.set_set]
  rw [← hput]
  exact hl.amend GoMap.get_set_self hbooks

theorem Ledger.pointer_eq (hl : h.Ledger) (he : h.entry p = some e) : e.pointer = p := by
  obtain ⟨hget, href⟩ := entry_eq_some.mp he
  rw [Entry.pointer, hl.keyed _ _ hget, href]

theorem Ledger.one_le_nodeEntries (hl : h.Ledger) (he : h.entries.get k = some e) :
    1 ≤ h.nodeEntries k.nodeID := by
  have hone : Entry.onNode k.nodeID e = 1 := by rw [Entry.onNode, hl.keyed k e he, if_pos rfl]
  rw [hl.byNode, ← hone]
  refine le_total (fun _ e' _ => ?_) he
  rw [Entry.onNode]
  split_ifs <;> decide

theorem usageOf_discharge (h : Holdback) (p : EntryRef) (e : Entry) (ck : ConnectionKey) :
    (h.discharge p e).usageOf ck =
      (h.usageOf ck).map fun u => if p.key.connection = ck then u + -e.usage else u := by
  obtain ⟨byNode, locks, heq, -, -⟩ := discharge_eq h p e
  rw [← usageOf_count, heq]
  rfl

/-- Limits that smaller counters meet as well are met without an entry. -/
theorem eases_discharge (h : Holdback) (p : EntryRef)
    (hsub : ∀ u limit, within u limit → within (u + -e.usage) limit) :
    Eases within h (h.discharge p e) := by
  obtain ⟨byNode, locks, heq, -, -⟩ := discharge_eq h p e
  refine ⟨by rw [heq], fun limit hw => ?_, fun ck limit hw u' hu' => ?_⟩
  · rw [heq]
    exact hsub _ _ hw
  · rw [usageOf_discharge, map_eq_some_iff] at hu'
    obtain ⟨u, hu, rfl⟩ := hu'
    split_ifs
    · exact hsub _ _ (hw u hu)
    · exact hw u hu

theorem Ledger.discharge (hl : h.Ledger) (he : h.entry p = some e) : (h.discharge p e).Ledger := by
  obtain ⟨hget, href⟩ := entry_eq_some.mp he
  have hshaped := hl.shaped _ _ hget
  have hpointer := hl.pointer_eq he
  obtain ⟨byNode, locks, heq, hcount, -⟩ := discharge_eq h p e
  have hgone : (h.discharge p e).entries.get p.key = none := by
    rw [heq]
    exact get_delete_self
  have hothers : ∀ k, k ≠ p.key → (h.discharge p e).entries.get k = h.entries.get k := by
    intro k hk
    rw [heq]
    exact get_delete_ne hk
  have happroved : (h.discharge p e).approved =
      if e.approved then h.approved.erase p else h.approved := by
    rw [heq, ← hpointer]
    simp only [hshaped.approvedItem, and_self]
  -- the usage of the entry is taken from every sum it is in
  refine { hl.toSums.exchange (-e.usage) hothers ?_ ?_ ?_ (usageOf_discharge h p e) ?_ ?_
    with shaped := ?_, listed := ?_, once := ?_, pendingLimits := ?_, connections := ?_ }
  · rw [hgone]
    nofun
  · rw [hgone, hget]
    exact add_neg_cancel _
  · rw [heq]
  · rw [hgone]
    nofun
  · intro n
    -- the count of the node does not go below zero
    have hone := hl.one_le_nodeEntries hget
    have hn : (h.discharge p e).nodeEntries n = (byNode.get n).getD 0 := by rw [heq]; rfl
    rw [hn, hcount, hgone, hget, elim_some, elim_none, Entry.onNode, hl.keyed _ _ hget]
    by_cases hnode : n = p.key.nodeID
    · subst hnode
      rw [if_pos rfl, if_pos rfl]
      omega
    · rw [if_neg hnode, if_neg (Ne.symm hnode)]
  · intro k e' he'
    have hk : k ≠ p.key := by
      rintro rfl
      rw [hgone] at he'
      cases he'
    rw [hothers k hk] at he'
    rw [show (h.discharge p e).limits = h.limits by rw [heq]]
    exact hl.shaped k e' he'
  · -- the entry leaves the list, and no other pointer to its key was in it
    intro q
    have hentry : (h.discharge p e).entry q = if q.key = p.key then none else h.entry q := by
      rw [entry]
      split_ifs with hq
      · rw [hq, hgone]
        rfl
      · rw [hothers _ hq]
        rfl
    have hmem : q ∈ h.approved → q.key = p.key → q = p ∧ e.approved := by
      intro hq hkey
      obtain ⟨e', he', happroved⟩ := (hl.listed q).mp hq
      obtain ⟨hget', href'⟩ := entry_eq_some.mp he'
      rw [hkey, hget, some.injEq] at hget'
      subst hget'
      refine ⟨?_, happroved⟩
      obtain ⟨qk, qr⟩ := q
      obtain ⟨pk, pr⟩ := p
      simp only at hkey href href'
      rw [hkey, ← href', href]
    rw [hentry, happroved]
    split_ifs with happroved hq hq
    · simp only [false_and, exists_false, iff_false]
      intro hmem'
      rw [hl.once.mem_erase_iff] at hmem'
      exact hmem'.1 (hmem hmem'.2 hq).1
    · rw [hl.once.mem_erase_iff, ← hl.listed q]
      exact and_iff_right fun hqp => hq (hqp ▸ rfl)
    · simp only [false_and, exists_false, iff_false]
      exact fun hmem' => happroved (hmem hmem' hq).2
    · exact hl.listed q
  · rw [happroved]
    split_ifs
    · exact hl.once.erase p
    · exact hl.once
  · exact hl.pendingLimits.eased (eases_discharge h p fun _ _ hw => hw.sub hshaped.usage_nonneg)
  · rw [heq]
    exact (len_count ..).le.trans hl.connections

theorem Ledger.removeEntry (hl : h.Ledger) (p : EntryRef) : (h.removeEntry p).Ledger := by
  rw [Holdback.removeEntry]
  split
  · exact hl
  · next e he => exact (hl.discharge he).removeIdleConnection _

/-- A removal keeps what is approved below its limits. -/
theorem Ledger.eases_removeEntry (hl : h.Ledger) (p : EntryRef) :
    Eases Usage.ApprovedWithin h (h.removeEntry p) := by
  rw [Holdback.removeEntry]
  split
  · exact .refl h
  · next e he =>
    have hnonneg := (hl.shaped _ _ (entry_eq_some.mp he).1).usage_nonneg
    have hdischarge : Eases Usage.ApprovedWithin h (h.discharge p e) :=
      eases_discharge h p fun _ _ hw => hw.sub hnonneg
    exact hdischarge.trans (eases_removeIdleConnection ..)

end Entries

/-! ## Frames come in -/

section Add

variable {h h' : Holdback} {C : Crypto} {ck : ConnectionKey} {c : HoldbackConnection} {e : Entry}
  {frame : Frame} {now : ℤ}

/-- The counters of a connection in which `add` finds or makes it. -/
theorem connect_usageOf (hok : h.connect ck = .ok (c, h')) :
    h'.usageOf ck = some c.usage ∧
      ∀ ck' u, h'.usageOf ck' = some u → h.usageOf ck' = some u ∨ u = 0 := by
  have hself : ∀ (c : HoldbackConnection), (h.putConnection ck c).usageOf ck = some c.usage := by
    intro c
    rw [usageOf_putConnection, if_pos rfl]
  rcases connect_cases hok with ⟨old, hold, rfl, rfl⟩ | ⟨-, -, rfl, rfl⟩
  · have husage : old.stopRecovery.usage = old.usage := rfl
    refine ⟨hself _, fun ck' u hu => .inl ?_⟩
    rwa [usageOf_putConnection_self hold husage] at hu
  · refine ⟨hself _, fun ck' u hu => ?_⟩
    change (h.putConnection ck _).usageOf ck' = some u at hu
    rw [usageOf_putConnection] at hu
    split_ifs at hu
    · exact .inr (some.inj hu).symm
    · exact .inl hu

/-- Limits that empty counters meet are met with a new connection. -/
theorem Within.connect (hw : h.Within within)
    (hzero : within 0 h.limits.connection) (hok : h.connect ck = .ok (c, h')) : h'.Within within := by
  refine ⟨?_, fun ck' u hu => ?_⟩
  · rcases connect_cases hok with ⟨old, -, -, rfl⟩ | ⟨-, -, -, rfl⟩ <;> exact hw.global
  · rw [connect_limits hok]
    rcases (connect_usageOf hok).2 ck' u hu with hold | rfl
    · exact hw.connection ck' u hold
    · exact hzero

theorem Ledger.connect (hl : h.Ledger) (hok : h.connect ck = .ok (c, h')) : h'.Ledger := by
  have hpending : h'.Within Usage.PendingWithin :=
    hl.pendingLimits.connect (Limits.pendingWithin_zero _) hok
  rcases connect_cases hok with ⟨old, hold, rfl, rfl⟩ | ⟨hnone, hlen, rfl, rfl⟩
  · exact hl.putConnection hold _ rfl
  · -- no entry can be on a connection that does not exist
    have hempty : ∀ k e, h.entries.get k = some e → k.connection ≠ ck := by
      rintro k e he rfl
      have := hl.connected k e he
      rw [usageOf, hnone] at this
      cases this
    refine { hl with usageOf := ?_, connected := ?_, pendingLimits := hpending, connections := ?_ }
    · intro ck' u hu
      change (h.putConnection ck _).usageOf ck' = some u at hu
      rw [usageOf_putConnection] at hu
      split_ifs at hu with hck
      · rw [← some.inj hu, hck]
        refine (total_eq_zero fun k e he => ?_).symm
        rw [Entry.usageOn, hl.keyed k e he, if_neg (hempty k e he)]
      · exact hl.usageOf ck' u hu
    · intro k e he
      change ((h.putConnection ck _).usageOf k.connection).isSome
      rw [usageOf_putConnection, if_neg (hempty k e he)]
      exact hl.connected k e he
    · have hmem : ck ∉ h.connections.keys := by simp [h.connections.mem_keys, hnone]
      exact (Finset.card_insert_of_notMem hmem).le.trans hlen

/-- Limits that the larger counters meet. -/
theorem Within.count {delta : Usage} (hw : h.Within within)
    (hglobal : within (h.usage + delta) h.limits.global)
    (hconnection : ∀ u, h.usageOf ck = some u → within (u + delta) h.limits.connection) :
    (h.count ck delta).Within within := by
  refine ⟨hglobal, fun ck' u hu => ?_⟩
  rw [usageOf_count, map_eq_some_iff] at hu
  obtain ⟨u, hu, rfl⟩ := hu
  split_ifs with hck
  · exact hconnection u (hck ▸ hu)
  · exact hw.connection ck' u hu

/-- The first frame of a message makes an entry. -/
theorem Ledger.insert (hl : h.Ledger) (ref : ℕ)
    (hnone : h.entries.get key = none) (hconnected : (h.usageOf key.connection).isSome)
    (htotal : total ≤ h.limits.maxMessageFrames)
    (hpending : (h.count key.connection ⟨0, 1, 0, 0, 0⟩).Within Usage.PendingWithin) :
    ((h.insert (.new ref key total)).count key.connection ⟨0, 1, 0, 0, 0⟩).Ledger := by
  have hkey : (Entry.new ref key total).key = key := rfl
  refine hl.exchange (.new ref key total) ⟨0, 1, 0, 0, 0⟩ rfl rfl ?_ rfl
    (usageOf_count h key.connection _) hconnected ?_ (Entry.shaped_new htotal) ?_ hl.once
    ⟨hpending.global, hpending.connection⟩ (len_count h key.connection _).le
  · rw [hkey, hnone]
    rfl
  · intro n
    rw [hkey, hnone, elim_none, add_zero]
    show ((h.entriesByNode.set key.nodeID (h.nodeEntries key.nodeID + 1)).get n).getD 0 =
      h.nodeEntries n + Entry.onNode n (Entry.new ref key total)
    rw [get_set, Entry.onNode, hkey]
    by_cases hn : n = key.nodeID
    · rw [if_pos hn, if_pos hn.symm, hn]
      rfl
    · rw [if_neg hn, if_neg (Ne.symm hn), add_zero]
      rfl
  · intro p
    have hfree : p.key = key → p ∉ h.approved := by
      intro hp hmem
      obtain ⟨e, he, -⟩ := (hl.listed p).mp hmem
      rw [entry, hp, hnone] at he
      cases he
    show p ∈ h.approved ↔ _
    rw [entry_put]
    split_ifs with hp href
    · refine iff_of_false (hfree hp) ?_
      rintro ⟨e, ⟨⟩, ⟨⟩⟩
    · refine iff_of_false (hfree hp) ?_
      rintro ⟨e, ⟨⟩, -⟩
    · exact hl.listed p

theorem Ledger.take (hl : h.Ledger) (he : h.entries.get e.key = some e) (hpending : e.pending)
    (hnew : e.digests.get frame.seqId = none) (hseq : frame.seqId < e.totalFrames)
    (hshort : e.bytes + frame.payload.length ≤ h.limits.maxMessageBytes)
    (hwithin : (h.count e.key.connection ⟨frame.payload.length, 0, 1, 0, 0⟩).Within
      Usage.PendingWithin) :
    ((h.count e.key.connection ⟨frame.payload.length, 0, 1, 0, 0⟩).put (e.take C frame)).Ledger := by
  have hshaped := hl.shaped _ _ he
  have happroved := hshaped.unapproved hpending
  refine hl.exchange (e.take C frame) ⟨frame.payload.length, 0, 1, 0, 0⟩ rfl rfl ?_ rfl
    (usageOf_count h e.key.connection _) (hl.connected _ e he) ?_
    (hshaped.take hpending hnew hseq hshort) (hl.listed_put he rfl rfl) hl.once
    ⟨hwithin.global, hwithin.connection⟩ (len_count h e.key.connection _).le
  · rw [show (e.take C frame).key = e.key from rfl, he, elim_some]
    exact Entry.take_usage hpending happroved hnew
  · intro n
    rw [show (e.take C frame).key = e.key from rfl, he]
    rfl

theorem Accounted.store (ha : h.Accounted) (he : h.entries.get e.key = some e)
    (hpending : e.pending) (hnew : e.digests.get frame.seqId = none)
    (hseq : frame.seqId < e.totalFrames)
    (hshort : e.bytes + frame.payload.length ≤ h.limits.maxMessageBytes)
    (hu : h.usageOf e.key.connection = some u)
    (hconnection : u.Room frame.payload.length h.limits.connection)
    (hglobal : h.usage.Room frame.payload.length h.limits.global) :
    (h.store C e frame now).2.Accounted := by
  have hcount : (h.count e.key.connection ⟨frame.payload.length, 0, 1, 0, 0⟩).Within
      Usage.PendingWithin := by
    refine ha.pendingLimits.count (hglobal.within ha.pendingLimits.global) fun u' hu' => ?_
    rw [hu, some.injEq] at hu'
    subst hu'
    exact hconnection.within (ha.pendingLimits.connection _ u hu)
  have happroved : (h.count e.key.connection ⟨frame.payload.length, 0, 1, 0, 0⟩).Within
      Usage.ApprovedWithin :=
    ha.approvedLimits.count ha.approvedLimits.global.add_pending fun u' hu' =>
      (ha.approvedLimits.connection _ u' hu').add_pending
  have htake := ha.toLedger.take (C := C) he hpending hnew hseq hshort hcount
  simp only [Holdback.store]
  split_ifs
  all_goals exact ⟨htake.amend_put rfl, happroved.global, happroved.connection⟩

/-- What `add` has checked when it stores a frame. -/
theorem checkLimits_ok {newMessage : Bool} (hok : h.checkLimits c newMessage bytes size = .ok ()) :
    (newMessage → c.usage.pendingMessages < h.limits.maxConnectionMessages ∧
      h.usage.pendingMessages < h.limits.maxGlobalMessages) ∧
    bytes + size ≤ h.limits.maxMessageBytes ∧ c.usage.Room size h.limits.connection ∧
    h.usage.Room size h.limits.global := by
  simp only [checkLimits, check_bind_ok_iff, check_ok_iff] at hok
  obtain ⟨hmessages, hglobal, hbytes, hconnection, hframes, hglobalBytes, hglobalFrames⟩ := hok
  refine ⟨fun hnew => ⟨?_, ?_⟩, by omega, ⟨?_, ?_⟩, ⟨?_, ?_⟩⟩
  · exact not_le.mp fun hle => hmessages ⟨hnew, hle⟩
  · exact not_le.mp fun hle => hglobal ⟨hnew, hle⟩
  all_goals
    simp only [Limits.connection, Limits.global]
    omega

theorem Accounted.addFrame (ha : h.Accounted)
    (hold : ∀ e, h.entries.get key = some e → e.approved = false ∧
      e.digests.get frame.seqId = none ∧ frame.seqId < e.totalFrames)
    (hseq : frame.seqId < frame.totalFrames)
    (htotal : frame.totalFrames ≤ h.limits.maxMessageFrames) :
    (h.addFrame C key (h.entries.get key) frame now).2.Accounted := by
  rw [Holdback.addFrame]
  split
  · exact ha
  · next c h' hconnect =>
    have hl := ha.toLedger.connect hconnect
    have happroved := ha.approvedLimits.connect (Limits.approvedWithin_zero _) hconnect
    have hself := (connect_usageOf hconnect).1
    rw [← connect_limits hconnect] at htotal
    have hget := congrArg (fun m => m.get key) (connect_entries hconnect)
    split
    · exact ⟨hl.removeIdleConnection _, happroved.eased (eases_removeIdleConnection ..)⟩
    · next hcheck =>
      obtain ⟨hmessage, hshort, hroom, hglobal⟩ := checkLimits_ok hcheck
      split
      · next e he =>
        obtain ⟨happ, hnew, hlt⟩ := hold e he
        have hheld : h'.entries.get key = some e := hget.trans he
        obtain rfl : e.key = key := hl.keyed key e hheld
        have hpending : e.pending := by rw [(hl.shaped _ e hheld).pending, happ]; rfl
        rw [he] at hshort
        exact Accounted.store ⟨hl, happroved⟩ hheld hpending hnew hlt hshort hself hroom hglobal
      · next hnone =>
        rw [hnone] at hshort hmessage
        obtain ⟨hmessages, hglobalMessages⟩ := hmessage rfl
        -- the new entry is counted as a message before its first frame is
        have hconn : ∀ u, h'.usageOf key.connection = some u → u = c.usage := by
          intro u hu
          rw [hself] at hu
          exact (some.inj hu).symm
        have hpending : (h'.count key.connection ⟨0, 1, 0, 0, 0⟩).Within Usage.PendingWithin := by
          refine hl.pendingLimits.count (hl.pendingLimits.global.message hglobalMessages) ?_
          intro u hu
          have hwithin := hl.pendingLimits.connection _ u hu
          rw [hconn u hu] at hwithin ⊢
          exact hwithin.message hmessages
        have hcounted : (h'.count key.connection ⟨0, 1, 0, 0, 0⟩).Within Usage.ApprovedWithin :=
          happroved.count happroved.global.add_pending fun u hu =>
            (happroved.connection _ u hu).add_pending
        have hinsert := hl.insert h'.created (hget.trans hnone) (hself ▸ rfl) htotal hpending
        refine Accounted.store
          ⟨hinsert, hcounted.global, hcounted.connection⟩ get_set_self rfl rfl hseq hshort ?_
          hroom.message hglobal.message
        show (h'.count key.connection ⟨0, 1, 0, 0, 0⟩).usageOf key.connection = _
        rw [usageOf_count, hself, map_some, if_pos rfl]

/-- Nothing that is read for the accounts changes. -/
theorem Accounted.amend (ha : h.Accounted) (he : h.entries.get k = some e)
    (hbooks : e'.books = e.books) : (h.put e').Accounted :=
  ⟨ha.toLedger.amend he hbooks, ha.approvedLimits.global, ha.approvedLimits.connection⟩

theorem Accounted.add (ha : h.Accounted) (C : Crypto) (nodeID : Bytes) (frame : Frame) (now : ℤ) :
    (h.add C nodeID frame now).2.Accounted := by
  rcases add_cases h C nodeID frame now with ⟨heq, -⟩ | ⟨e, message, hresume⟩ | ⟨hstored, heq⟩
  · rw [heq]
    exact ha
  · rw [hresume.state]
    exact ha.amend hresume.entry rfl
  · rw [heq]
    exact ha.addFrame (fun e he => ⟨(hstored.unknown e he).1, (hstored.unknown e he).2.2.1,
      (hstored.unknown e he).2.2.2 ▸ hstored.sequence⟩) hstored.sequence hstored.total

end Add

/-! ## Approval -/

section Approve

variable {h : Holdback} {ck : ConnectionKey} {c : HoldbackConnection} {p : EntryRef} {e : Entry}
  {a : Approval}

/-- Entries that are not approved add nothing to the counters of what is approved. -/
theorem approvedWithin_total
    (hzero : ∀ k e, h.entries.get k = some e → (f e).approvedMessages = 0 ∧ (f e).approvedBytes = 0)
    (hlimit : (0 : Usage).ApprovedWithin limit) : (h.entries.total f).ApprovedWithin limit := by
  have hmessages : Usage.approvedMessagesHom (h.entries.total f) = 0 := by
    rw [map_total]
    exact total_eq_zero fun k e he => (hzero k e he).1
  have hbytes : Usage.approvedBytesHom (h.entries.total f) = 0 := by
    rw [map_total]
    exact total_eq_zero fun k e he => (hzero k e he).2
  exact ⟨hbytes.le.trans hlimit.approvedBytes, hmessages.le.trans hlimit.approvedMessages⟩

theorem Ledger.unapproved (hl : h.Ledger) (he : h.entries.get k = some e)
    (hlist : ∀ p ∈ h.approved, p.key ≠ k) :
    e.usage.approvedMessages = 0 ∧ e.usage.approvedBytes = 0 := by
  have hkey := hl.keyed k e he
  rcases (hl.shaped k e he).usage_cases with ⟨-, -, husage⟩ | ⟨-, happroved, -⟩
  · rw [husage]
    exact ⟨rfl, rfl⟩
  · exact absurd hkey (hlist _ ((hl.listed _).mpr ⟨e, entry_pointer he hkey, happroved⟩))

/-- Without approved entries on a connection, none is counted on it. -/
theorem Ledger.approvedWithin_of_none (hl : h.Ledger) (hu : h.usageOf ck = some u)
    (hnone : ∀ p ∈ h.approved, p.key.connection ≠ ck) : u.ApprovedWithin h.limits.connection := by
  rw [hl.usageOf ck u hu]
  refine approvedWithin_total (fun k e he => ?_) (Limits.approvedWithin_zero _)
  rw [Entry.usageOn, hl.keyed k e he]
  split_ifs with hck
  · exact hl.unapproved he fun p hp hk => hnone p hp (hk ▸ hck)
  · exact ⟨rfl, rfl⟩

/-- Without approved entries, none is counted. -/
theorem Ledger.approvedWithin_of_nil (hl : h.Ledger) (hnil : h.approved = []) :
    h.usage.ApprovedWithin h.limits.global := by
  rw [hl.usage]
  refine approvedWithin_total (fun k e he => hl.unapproved he ?_) ?_
  · rw [hnil]
    nofun
  · constructor <;> exact Int.natCast_nonneg _

theorem Ledger.length_removeEntry (hl : h.Ledger) (hp : p ∈ h.approved) :
    (h.removeEntry p).approved.length + 1 = h.approved.length := by
  obtain ⟨e, he, happroved⟩ := (hl.listed p).mp hp
  have hitem := (hl.shaped _ _ (entry_eq_some.mp he).1).approvedItem
  obtain ⟨byNode, locks, heq, -, -⟩ := discharge_eq h p e
  have hlist : (h.removeEntry p).approved = h.approved.erase p := by
    rw [Holdback.removeEntry, he, ← hl.pointer_eq he]
    simp only
    rw [removeIdleConnection_approved, hl.pointer_eq he, heq]
    simp only [hitem, happroved, and_self, if_true, hl.pointer_eq he]
  rw [hlist]
  exact length_erase_add_one hp

/-- The first loop of `evictApprovedLocked` ends below the limits, and does not run out of turns. It
only makes the counters of the connections smaller. -/
theorem Ledger.evictGlobal (turns : ℕ) (hl : h.Ledger) (hturns : h.approved.length ≤ turns) :
    (Holdback.evictGlobal turns h).Ledger ∧
      (Holdback.evictGlobal turns h).usage.ApprovedWithin
        (Holdback.evictGlobal turns h).limits.global ∧
      Eases Usage.ApprovedWithin h (Holdback.evictGlobal turns h) := by
  induction turns generalizing h with
  | zero =>
    have hnil : h.approved = [] := length_eq_zero_iff.mp (Nat.le_zero.mp hturns)
    exact ⟨hl, hl.approvedWithin_of_nil hnil, .refl h⟩
  | succ turns ih =>
    rw [Holdback.evictGlobal]
    split_ifs with hover
    · split
      · next hnil => exact ⟨hl, hl.approvedWithin_of_nil hnil, .refl h⟩
      · next front rest hlist =>
        have hshorter := hl.length_removeEntry (hlist ▸ mem_cons_self : front ∈ h.approved)
        obtain ⟨hledger, hwithin, heases⟩ := ih (hl.removeEntry front) (by omega)
        exact ⟨hledger, hwithin, (hl.eases_removeEntry front).trans heases⟩
    · rw [not_or, not_lt, not_lt] at hover
      exact ⟨hl, ⟨hover.2, hover.1⟩, .refl h⟩

theorem Ledger.accounted (hl : h.Ledger) (hglobal : h.usage.ApprovedWithin h.limits.global)
    (hothers : ∀ ck' u, ck' ≠ ck → h.usageOf ck' = some u → u.ApprovedWithin h.limits.connection)
    (hself : ∀ u, h.usageOf ck = some u → u.ApprovedWithin h.limits.connection) : h.Accounted := by
  refine ⟨hl, hglobal, fun ck' u hu => ?_⟩
  by_cases hck : ck' = ck
  · exact hself u (hck ▸ hu)
  · exact hothers ck' u hck hu

/-- The second loop of `evictApprovedLocked` brings the connection below its limits and leaves the
others below theirs. -/
theorem Ledger.evictConnection (turns : ℕ) (hl : h.Ledger) (hturns : h.approved.length ≤ turns)
    (hglobal : h.usage.ApprovedWithin h.limits.global)
    (hothers : ∀ ck' u, ck' ≠ ck → h.usageOf ck' = some u → u.ApprovedWithin h.limits.connection) :
    (Holdback.evictConnection ck turns h).Accounted := by
  induction turns generalizing h with
  | zero =>
    have hnil : h.approved = [] := length_eq_zero_iff.mp (Nat.le_zero.mp hturns)
    refine hl.accounted hglobal hothers fun u hu => hl.approvedWithin_of_none hu ?_
    rw [hnil]
    nofun
  | succ turns ih =>
    have hfinish := hl.accounted hglobal hothers
    rw [Holdback.evictConnection]
    split
    · next hnone =>
      refine hfinish fun u hu => ?_
      rw [usageOf, hnone] at hu
      cases hu
    · next c hc =>
      split_ifs with hunder
      · refine hfinish fun u hu => ?_
        obtain rfl : c.usage = u := mem_unique (usageOf_of_get hc) hu
        exact ⟨hunder.2, hunder.1⟩
      · split
        · next hfind =>
          refine hfinish fun u hu => hl.approvedWithin_of_none hu fun p hp => ?_
          simpa using find?_eq_none.mp hfind p hp
        · next candidate hfind =>
          have hmem := mem_of_find?_eq_some hfind
          have hshorter := hl.length_removeEntry hmem
          obtain ⟨hlimits, hnext, hconnection⟩ := hl.eases_removeEntry candidate
          refine ih (hl.removeEntry candidate) (by omega) ?_ fun ck' u hck => ?_
          · rw [hlimits]
            exact hnext _ hglobal
          · rw [hlimits]
            exact hconnection ck' _ (fun u => hothers ck' u hck) u

/-- The books behind an approval, before the eviction. -/
theorem Ledger.approveEntry (hl : h.Ledger) (hok : h.Approvable p a e c) :
    (h.approveEntry p e c a).Ledger := by
  obtain ⟨hget, href⟩ := entry_eq_some.mp hok.entry
  have hkey : e.key = p.key := hl.keyed _ e hget
  have hpointer := hl.pointer_eq hok.entry
  have hshaped := hl.shaped _ e hget
  have happroved := hshaped.unapproved hok.pending
  have husage := Entry.usage_of_pending hok.pending happroved
  have hnew : e.approve.usage = e.approve.approvedUsage := Entry.usage_of_approved rfl rfl
  have hkept : e.approve.key = p.key := hkey
  have hmem : p ∉ h.approved := by
    intro hp
    obtain ⟨e', he', happroved'⟩ := (hl.listed p).mp hp
    obtain rfl : e = e' := mem_unique hok.entry he'
    rw [happroved] at happroved'
    cases happroved'
  -- the phase of the connection changes first, then the entry
  have hphase := hl.putConnection hok.connection { c with phase := c.phase.approve a } rfl
  refine hphase.exchange e.approve (e.approve.approvedUsage - e.pendingUsage) rfl rfl ?_ rfl ?_ ?_ ?_
    hshaped.approve ?_ ?_ ?_ (len_count ..).le
  · show (h.entries.get e.key).elim 0 Entry.usage + _ = _
    rw [hkey, hget, elim_some, husage, hnew, add_sub_cancel]
  · intro ck
    rw [hkept]
    exact usageOf_count ..
  · rw [hkept]
    exact hphase.connected p.key e hget
  · intro n
    rw [hkept]
    show h.nodeEntries n + (h.entries.get p.key).elim 0 _ = h.nodeEntries n + Entry.onNode n e
    rw [hget]
    rfl
  · -- the list gains the pointer, and the pointer now leads to an approved entry
    intro q
    show q ∈ h.approved ++ [p] ↔ _
    rw [entry_put, mem_append, mem_singleton, hl.listed q, hkept,
      show e.approve.ref = p.ref from href]
    split_ifs with hq hr
    · have hqp : q = p := by
        obtain ⟨qkey, qref⟩ := q
        obtain ⟨pkey, pref⟩ := p
        simp_all
      simp [hqp, Entry.approve]
    · have hnone : h.entry q = none := by
        rw [entry, hq, hget]
        simp [href, hr]
      have hne : q ≠ p := fun hqp => hr (hqp ▸ rfl)
      simp [hnone, hne]
    · have hne : q ≠ p := fun hqp => hq (hqp ▸ rfl)
      simp only [hne, or_false]
      rfl
  · show (h.approved ++ [p]).Nodup
    exact nodup_append.mpr ⟨hl.once, nodup_singleton p, by
      intro q hq r hr hqr
      rw [hqr, mem_singleton.mp hr] at hq
      exact hmem hq⟩
  · -- what was pending is exchanged for what is approved
    have hnonneg : e.pendingUsage.Nonneg := husage ▸ hshaped.usage_nonneg
    have hsub : ∀ u limit : Usage, u.PendingWithin limit →
        (u + (e.approve.approvedUsage - e.pendingUsage)).PendingWithin limit :=
      fun u limit hu => hu.exchange hnonneg
    have hcount := hphase.pendingLimits.count (hsub _ _ hphase.pendingLimits.global)
      fun u hu => hsub _ _ (hphase.pendingLimits.connection p.key.connection u hu)
    exact ⟨hcount.global, hcount.connection⟩

/-- The counters of the other connections stay as they are. -/
theorem usageOf_approveEntry {ck' : ConnectionKey} (hck : ck' ≠ p.key.connection) :
    (h.approveEntry p e c a).usageOf ck' = h.usageOf ck' := by
  show ((h.putConnection p.key.connection { c with phase := c.phase.approve a }).count
    p.key.connection _).usageOf ck' = _
  rw [usageOf_count, usageOf_putConnection, if_neg hck]
  simp only [if_neg (Ne.symm hck)]
  exact map_id'

theorem Accounted.scheduleHeld (ha : h.Accounted) (p : EntryRef) (now timeout : ℤ) :
    (h.scheduleHeld p now timeout).Accounted := by
  rw [Holdback.scheduleHeld]
  split
  · exact ha
  · next e he => exact ha.amend (entry_eq_some.mp he).1 rfl

theorem Accounted.approve (ha : h.Accounted) (p : EntryRef) (a : Approval) (now : ℤ) :
    (h.approve p a now).2.Accounted := by
  rcases approve_cases h p a now with ⟨heq, -⟩ | ⟨e, c, hok, heq⟩ <;> rw [heq]
  · exact ha
  · refine Accounted.scheduleHeld ?_ p now _
    have hl := ha.toLedger.approveEntry hok
    obtain ⟨hevict, hglobal, heases⟩ := hl.evictGlobal _ le_rfl
    refine hevict.evictConnection _ le_rfl hglobal fun ck' u hck => ?_
    rw [heases.limits]
    refine heases.connection ck' _ (fun u hu => ?_) u
    rw [usageOf_approveEntry hck] at hu
    exact ha.approvedLimits.connection ck' u hu

end Approve

/-! ## The other operations -/

section Others

variable {h : Holdback}

section

variable (ha : h.Accounted)
include ha

theorem Accounted.removeEntry (p : EntryRef) : (h.removeEntry p).Accounted := by
  exact ⟨ha.toLedger.removeEntry p, ha.approvedLimits.eased (ha.toLedger.eases_removeEntry p)⟩

theorem Accounted.deferCompletion (completion : Completion) (now : ℤ) :
    (h.deferCompletion completion now).2.Accounted := by
  rcases deferCompletion_cases h completion now with ⟨heq, -⟩ | ⟨e, he, -, -, heq⟩ <;> rw [heq]
  · exact ha
  · exact ha.amend (entry_eq_some.mp he).1 rfl

theorem Accounted.nextDeferred (order : GoMap.Order HoldbackKey) (nodeID : Bytes)
    (sessionID : Bytes32) : (h.nextDeferred order nodeID sessionID).2.Accounted := by
  rcases nextDeferred_cases h order nodeID sessionID with heq | ⟨k, e, m, he, -, heq⟩ <;> rw [heq]
  · exact ha
  · exact ha.amend he rfl

theorem Accounted.acknowledge (nodeID connectionID : Bytes) (messageID : ℕ) :
    (h.acknowledge nodeID connectionID messageID).Accounted := by
  rw [Holdback.acknowledge]
  split_ifs
  · exact ha
  · split
    · exact ha
    · split_ifs
      · exact ha.removeEntry _
      · exact ha

theorem Accounted.removeEntries (order : GoMap.Order HoldbackKey)
    (ck : ConnectionKey) : (h.removeEntries order ck).Accounted :=
  removeEntries_induction order ck ha fun _ p ha => ha.removeEntry p

theorem Accounted.dropConnection (hnone : ∀ k e, h.entries.get k = some e → k.connection ≠ ck) :
    { h with connections := h.connections.delete ck }.Accounted :=
  ⟨ha.toLedger.dropConnection hnone, ha.approvedLimits.eased (eases_dropConnection h ck)⟩

/-- The phase of a connection or its timer changes. -/
theorem Accounted.putConnection {c : HoldbackConnection}
    (hc : h.connections.get ck = some c) (c' : HoldbackConnection) (husage : c'.usage = c.usage) :
    (h.putConnection ck c').Accounted := by
  refine ⟨ha.toLedger.putConnection hc c' husage, ha.approvedLimits.global, ?_⟩
  rw [usageOf_putConnection_self hc husage]
  exact ha.approvedLimits.connection

theorem Accounted.forgetConnection (order : GoMap.Order HoldbackKey)
    (nodeID connectionID : Bytes) : (h.forgetConnection order nodeID connectionID).Accounted := by
  rw [Holdback.forgetConnection]
  split_ifs
  · exact ha
  · exact (ha.removeEntries order _).dropConnection (removeEntries_none ha.keyed)

theorem Accounted.resetConnection (order : GoMap.Order HoldbackKey)
    (nodeID connectionID : Bytes) (now : ℤ) :
    (h.resetConnection order nodeID connectionID now).Accounted := by
  have hremoved := ha.removeEntries order ⟨nodeID, connectionID⟩
  rw [Holdback.resetConnection]
  split
  · exact ha
  simp only
  split
  · exact hremoved
  · next c hc =>
    split_ifs
    · exact hremoved.putConnection hc _ rfl
    · exact hremoved.dropConnection (removeEntries_none ha.keyed)

/-- The accounts do not read the locks and the callbacks that wait. -/
theorem Accounted.wait (validationLocks : GoMap Bytes ℕ) (created : ℕ) (locks : ℕ → ValidationLock)
    (expiring : List (EntryRef × ℕ)) (recovering : List (ConnectionKey × ℕ × ℕ)) :
    { h with validationLocks, created, locks, expiring, recovering }.Accounted where
  toLedger := { ha.toLedger with pendingLimits := { ha.pendingLimits with } }
  approvedLimits := { ha.approvedLimits with }

theorem Accounted.timerFires (key : HoldbackKey) (now : ℤ) : (h.timerFires key now).Accounted := by
  rw [Holdback.timerFires]
  split
  · exact ha
  · next e he =>
    split
    · exact ha
    · split_ifs
      · have hput : (h.put e.stopTimer).Accounted := ha.amend he rfl
        exact hput.wait ..
      · exact ha

theorem Accounted.timerExpires (i : ℕ) : (h.timerExpires i).Accounted := by
  rw [Holdback.timerExpires]
  split
  · exact ha
  · have hpopped : { h with expiring := h.expiring.eraseIdx i }.Accounted :=
      ha.wait ..
    simp only
    split
    · exact hpopped
    · split_ifs
      · exact hpopped.removeEntry _
      · exact hpopped

theorem Accounted.recoveryFires (ck : ConnectionKey) (now : ℤ) :
    (h.recoveryFires ck now).Accounted := by
  rw [Holdback.recoveryFires]
  split
  · exact ha
  · next c hc =>
    split
    · exact ha
    · split_ifs
      · exact (ha.putConnection hc c.stopRecovery rfl).wait ..
      · exact ha

theorem Accounted.recoveryExpires (i : ℕ) : (h.recoveryExpires i).Accounted := by
  rw [Holdback.recoveryExpires]
  split
  · exact ha
  · have hpopped : { h with recovering := h.recovering.eraseIdx i }.Accounted :=
      ha.wait ..
    simp only
    split
    · exact hpopped
    · next c hc =>
      split
      · split_ifs with hidle
        · exact hpopped.dropConnection (hpopped.toLedger.no_entries hc hidle.1 hidle.2)
        · exact hpopped.putConnection hc c.stopRecovery rfl
      · exact hpopped

theorem Accounted.validationGuard (p : EntryRef) :
    (((h.validationGuard p).map Prod.snd).getD h).Accounted := by
  rw [Holdback.validationGuard]
  split
  · exact ha
  · split
    · exact ha
    · split <;> exact ha.wait ..

theorem Accounted.leaveValidation (nodeID : Bytes) (lock : ℕ) :
    (h.leaveValidation nodeID lock).Accounted := by
  rw [Holdback.leaveValidation]
  simp only
  split_ifs <;> exact ha.wait ..

theorem Accounted.step (C : Crypto) (event : Event) : (h.step C event).Accounted := by
  cases event with
  | add nodeID frame now => exact ha.add C nodeID frame now
  | validationGuard entry => exact ha.validationGuard entry
  | setLocked lock locked => exact ha.wait ..
  | leaveValidation nodeID lock => exact ha.leaveValidation nodeID lock
  | deferCompletion completion now => exact ha.deferCompletion completion now
  | nextDeferred order nodeID sessionID => exact ha.nextDeferred order nodeID sessionID
  | approve entry approval now => exact ha.approve entry approval now
  | reject entry => exact ha.removeEntry entry
  | acknowledge nodeID connectionID messageID => exact ha.acknowledge nodeID connectionID messageID
  | forgetConnection order nodeID connectionID =>
    exact ha.forgetConnection order nodeID connectionID
  | resetConnection order nodeID connectionID now =>
    exact ha.resetConnection order nodeID connectionID now
  | timerFires key now => exact ha.timerFires key now
  | timerExpires i => exact ha.timerExpires i
  | recoveryFires connection now => exact ha.recoveryFires connection now
  | recoveryExpires i => exact ha.recoveryExpires i

end

theorem accounted_new (limits : Limits) : (new limits).Accounted where
  keyed k e he := by cases he
  usage := rfl
  usageOf ck u hu := by cases hu
  connected k e he := by cases he
  byNode n := rfl
  shaped k e he := by cases he
  listed p := ⟨nofun, fun ⟨e, he, _⟩ => by cases he⟩
  once := nodup_nil
  pendingLimits := ⟨by constructor <;> exact Int.natCast_nonneg _, nofun⟩
  connections := Nat.zero_le _
  approvedLimits := ⟨by constructor <;> exact Int.natCast_nonneg _, nofun⟩

theorem accounted_run (C : Crypto) (limits : Limits) (events : List Event) :
    (run C limits events).Accounted := by
  have hrun : ∀ h : Holdback, h.Accounted → (events.foldl (Holdback.step C) h).Accounted := by
    induction events with
    | nil => exact fun h ha => ha
    | cons event events ih => exact fun h ha => ih _ (ha.step C event)
  exact hrun _ (accounted_new limits)

end Others

/-! ## The accounts of every run -/

/-- The counters are the sums over the entries that are pending and over those that are approved, as
far as they are on `counted` connections. -/
structure Totals (u : Usage) (entries : GoMap HoldbackKey Entry) (counted : ConnectionKey → Bool) :
    Prop where
  pendingBytes : u.pendingBytes =
    entries.total fun e => if counted e.key.connection ∧ e.pending then e.bytes else 0
  pendingMessages : u.pendingMessages =
    entries.total fun e => if counted e.key.connection ∧ e.pending then 1 else 0
  pendingFrames : u.pendingFrames =
    entries.total fun e => if counted e.key.connection ∧ e.pending then (e.frames.len : ℤ) else 0
  approvedBytes : u.approvedBytes =
    entries.total fun e => if counted e.key.connection ∧ e.approved then e.fingerprintBytes else 0
  approvedMessages : u.approvedMessages =
    entries.total fun e => if counted e.key.connection ∧ e.approved then 1 else 0

/-- The accounts of the holdback. -/
structure Accounts (h : Holdback) : Prop where
  totals : Totals h.usage h.entries fun _ => true
  connectionTotals : ∀ ck c, h.connections.get ck = some c →
    Totals c.usage h.entries fun ck' => ck' = ck
  entriesByNode : ∀ n, h.nodeEntries n =
    h.entries.total fun e => if e.key.nodeID = n then (1 : ℤ) else 0
  bytes : ∀ k e, h.entries.get k = some e → e.pending →
    e.bytes = e.frames.total fun f => (f.payload.length : ℤ)
  approvedOnce : h.approved.Nodup ∧
    ∀ p, p ∈ h.approved ↔ ∃ e, h.entries.get p.key = some e ∧ e.ref = p.ref ∧ e.approved
  connected : ∀ k e, h.entries.get k = some e → ∃ c, h.connections.get k.connection = some c
  nonneg : h.usage.Nonneg
  connectionNonneg : ∀ ck c, h.connections.get ck = some c → c.usage.Nonneg
  nodeNonneg : ∀ n, 0 ≤ h.nodeEntries n
  messageLimits : ∀ k e, h.entries.get k = some e →
    e.bytes ≤ h.limits.maxMessageBytes ∧ (e.pending → e.frames.len ≤ h.limits.maxMessageFrames)
  pendingLimits : h.usage.PendingWithin h.limits.global
  approvedLimits : h.usage.ApprovedWithin h.limits.global
  connectionLimits : ∀ ck c, h.connections.get ck = some c →
    c.usage.PendingWithin h.limits.connection ∧ c.usage.ApprovedWithin h.limits.connection
  connections : h.connections.len ≤ h.limits.maxConnections

section Accounts

variable {h : Holdback}

/-- A sum of usages is a sum of each counter. -/
theorem Ledger.totals (hl : h.Ledger) {counted : ConnectionKey → Bool}
    (hu : u = h.entries.total fun e => if counted e.key.connection then e.usage else 0) :
    Totals u h.entries counted := by
  have hsum : ∀ (counter : Usage →+ ℤ) (held : Entry → Bool) (weight : Entry → ℤ),
      (∀ k e, h.entries.get k = some e → counter e.usage = if held e then weight e else 0) →
      counter u =
        h.entries.total fun e => if counted e.key.connection ∧ held e then weight e else 0 := by
    intro counter held weight hweight
    rw [hu, map_total]
    refine total_congr fun k e he => ?_
    by_cases hc : counted e.key.connection
    · simp only [hc, true_and, if_true, hweight k e he]
    · simp [hc]
  refine ⟨hsum Usage.pendingBytesHom Entry.pending _ fun k e he => ?_,
    hsum Usage.pendingMessagesHom Entry.pending _ fun k e he => ?_,
    hsum Usage.pendingFramesHom Entry.pending _ fun k e he => ?frames,
    hsum Usage.approvedBytesHom Entry.approved _ fun k e he => ?_,
    hsum Usage.approvedMessagesHom Entry.approved _ fun k e he => ?_⟩
  case frames =>
    have hframes := (hl.shaped k e he).frames
    rcases (hl.shaped k e he).usage_cases with ⟨hp, -, husage⟩ | ⟨hp, -, husage⟩
    · rw [husage, if_pos hp, len, hframes hp]
      rfl
    · rw [husage, hp]
      rfl
  all_goals
    rcases (hl.shaped k e he).usage_cases with ⟨hp, ha, husage⟩ | ⟨hp, ha, husage⟩
    all_goals
      simp only [husage, hp, ha]
      rfl

theorem Ledger.nonneg_total (hl : h.Ledger)
    (hf : ∀ e : Entry, f e = e.usage ∨ f e = 0) : (h.entries.total f).Nonneg := by
  have hnonneg : ∀ k e, h.entries.get k = some e → (f e).Nonneg := by
    intro k e he
    rcases hf e with heq | heq
    · rw [heq]
      exact (hl.shaped k e he).usage_nonneg
    · rw [heq]
      constructor <;> exact le_rfl
  have hsum : ∀ counter : Usage →+ ℤ, (∀ u : Usage, u.Nonneg → 0 ≤ counter u) →
      0 ≤ counter (h.entries.total f) := by
    intro counter hcounter
    rw [map_total]
    exact total_nonneg fun k e he => hcounter _ (hnonneg k e he)
  exact ⟨hsum Usage.pendingBytesHom fun _ hu => hu.pendingBytes,
    hsum Usage.pendingMessagesHom fun _ hu => hu.pendingMessages,
    hsum Usage.pendingFramesHom fun _ hu => hu.pendingFrames,
    hsum Usage.approvedBytesHom fun _ hu => hu.approvedBytes,
    hsum Usage.approvedMessagesHom fun _ hu => hu.approvedMessages⟩

theorem Accounted.accounts (ha : h.Accounted) : h.Accounts := by
  constructor
  · refine ha.totals ?_
    simp only [if_true]
    exact ha.usage
  · intro ck c hc
    refine ha.totals ?_
    simp only [decide_eq_true_eq]
    exact ha.usageOf ck _ (usageOf_of_get hc)
  · exact ha.byNode
  · intro k e he _
    exact (ha.shaped k e he).bytes
  · refine ⟨ha.once, fun p => ?_⟩
    simp only [ha.listed, entry_eq_some, and_assoc]
  · intro k e he
    have hconnected := ha.connected k e he
    rw [usageOf, isSome_map] at hconnected
    exact isSome_iff_exists.mp hconnected
  · rw [ha.usage]
    exact ha.nonneg_total fun e => .inl rfl
  · intro ck c hc
    rw [ha.usageOf ck _ (usageOf_of_get hc)]
    refine ha.nonneg_total fun e => ?_
    rw [Entry.usageOn]
    split_ifs
    · exact .inl rfl
    · exact .inr rfl
  · intro n
    rw [ha.byNode]
    refine total_nonneg fun k e _ => ?_
    rw [Entry.onNode]
    split_ifs <;> decide
  · intro k e he
    have hshaped := ha.shaped k e he
    refine ⟨hshaped.short, fun hpending => le_trans ?_ hshaped.totalFrames⟩
    have hdigests := Finset.card_le_card hshaped.digests
    rwa [Finset.card_range, ← hshaped.frames hpending] at hdigests
  · exact ha.pendingLimits.global
  · exact ha.approvedLimits.global
  · intro ck c hc
    exact ⟨ha.pendingLimits.connection ck _ (usageOf_of_get hc),
      ha.approvedLimits.connection ck _ (usageOf_of_get hc)⟩
  · exact ha.connections

/-- Whatever happens to a holdback, its counters are the sums over its entries, the list of approved
entries holds each of them once, every entry has its connection, and no limit is exceeded. -/
theorem holdback_accounts (C : Crypto) (limits : Limits) (events : List Event) :
    (run C limits events).Accounts :=
  (accounted_run C limits events).accounts

end Accounts

end Holdback

end NatP2P.Network
