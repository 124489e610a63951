import NatP2P.Network.Ack

/-!
# The quality of a leg

Reference: `networkFrameWork/frame_adapter.go` and `networkFrameWork/DualStream.go`
(`kcpSendQualityPolicy`).

A relay reaches a peer over several legs. A KCP leg may be alive and still too slow, so the relay
counts how many bytes it sent over it and how many of them were acknowledged, window by window, and
gives a message a time budget. Two divisions of the source are in floating point; what they give is
an argument here.
-/

namespace NatP2P.Network

/-! ## The progress of acknowledgements -/

/-- `validAckRanges`; `last` is the end of the range before. -/
def validAckRanges (expectedTotal : ℕ) (last : Option ℕ) : List AckRange → Bool
  | [] => true
  | r :: ranges =>
    if r.start > r.stop ∨ r.stop ≥ expectedTotal ∨ ∃ stop ∈ last, r.start ≤ stop then false
    else validAckRanges expectedTotal (some r.stop) ranges

/-- `ackRangesContain`. Both lists are walked once. -/
def ackRangesContain : List AckRange → List AckRange → Bool
  | _, [] => true
  | current, prior :: previous =>
    match current.dropWhile fun r => r.stop < prior.start with
    | [] => false
    | r :: rest =>
      if r.start > prior.start ∨ r.stop < prior.stop then false
      else ackRangesContain (r :: rest) previous

/-- `payloadRangeSize`, added to what was counted before: bytes and frames. -/
def payloadRangeSize (payloadSize : ℕ → Option ℕ) (start stop : ℕ) (counted : ℕ × ℕ) :
    Option (ℕ × ℕ) :=
  ((List.range' start (stop + 1 - start)).foldlM
    (fun bytes sequence => (payloadSize (sequence % 2 ^ 32)).map (bytes + ·)) counted.1).map
    fun bytes => (bytes, counted.2 + (stop + 1 - start))

/-- The inner loop of `acknowledgeFramePayload`: what of the range up to `stop` the ranges of the
acknowledgement before leave open. It gives the place behind the last of them. -/
def scanPrevious (payloadSize : ℕ → Option ℕ) (stop : ℕ) :
    List AckRange → ℕ → ℕ × ℕ → Option (ℕ × ℕ × ℕ)
  | [], cursor, counted => some (cursor, counted)
  | previous :: rest, cursor, counted =>
    if previous.start > stop then some (cursor, counted)
    else do
      let counted ←
        if previous.start > cursor then
          payloadRangeSize payloadSize cursor (previous.start - 1) counted
        else some counted
      let cursor := max cursor (previous.stop + 1)
      if cursor > stop then some (cursor, counted)
      else scanPrevious payloadSize stop rest cursor counted

/-- The outer loop of `acknowledgeFramePayload`. -/
def countRanges (payloadSize : ℕ → Option ℕ) :
    List AckRange → List AckRange → ℕ × ℕ → Option (ℕ × ℕ)
  | [], _, counted => some counted
  | current :: ranges, previous, counted => do
    let previous := previous.dropWhile fun r => r.stop < current.start
    let (cursor, counted) ← scanPrevious payloadSize current.stop previous current.start counted
    let counted ←
      if cursor ≤ current.stop then payloadRangeSize payloadSize cursor current.stop counted
      else some counted
    countRanges payloadSize ranges previous counted

/-- `acknowledgeFramePayload`: the bytes and the frames that an ACK acknowledges for the first time,
and the new progress. A refused ACK leaves the progress as it is. -/
def acknowledgeFramePayload (frame : Frame) (expectedTotal : ℕ) (progress : List AckRange)
    (payloadSize : ℕ → Option ℕ) : Option (ℕ × ℕ) × List AckRange :=
  if frame.frameType ≠ frameTypeAck ∨ expectedTotal = 0 ∨ frame.totalFrames ≠ expectedTotal then
    (none, progress)
  else
    match decodeAckRanges frame.payload with
    | .error _ => (none, progress)
    | .ok ranges =>
      if ranges = [] ∨ !validAckRanges expectedTotal none ranges ∨
          !ackRangesContain ranges progress then
        (none, progress)
      else
        match countRanges payloadSize ranges progress (0, 0) with
        | none => (none, progress)
        | some counted => (some counted, ranges)

/-! ## Legs -/

/-- The protocol of a leg. -/
inductive LegFamily where
  | tcp
  | kcp
deriving DecidableEq

/-- `streamTransport` of a leg: the family, and which of its legs (`tcp`, `tcp#2`, …). The empty
name `streamTransportUnknown` is `none` where it can occur. -/
structure LegID where
  family : LegFamily
  number : ℕ
deriving DecidableEq

/-! ## Budgets -/

/-- `kcpSendQualityPolicy`. -/
structure KCPSendQualityPolicy where
  minimumPayloadBytes : ℤ
  minimumGoodputBytesPerSec : ℤ
  startupBudget : ℤ
  controlHedgeBudget : ℤ

/-- `defaultKCPSendQualityPolicy`. -/
def defaultKCPSendQualityPolicy : KCPSendQualityPolicy where
  minimumPayloadBytes := 64 * 1024
  minimumGoodputBytesPerSec := 1024 * 1024
  startupBudget := 2 * second
  controlHedgeBudget := 750 * 1000000

/-- `kcpSendQualityPolicy.budget`. `fraction` is the time for less than a second's worth of bytes,
which the source computes in floating point. -/
def KCPSendQualityPolicy.budget (policy : KCPSendQualityPolicy) (fraction : ℤ → ℤ)
    (payloadBytes : ℤ) : Option ℤ :=
  if payloadBytes < policy.minimumPayloadBytes ∨ policy.minimumPayloadBytes ≤ 0 ∨
      policy.minimumGoodputBytesPerSec ≤ 0 ∨ policy.startupBudget < 0 then
    none
  else
    let wholeSeconds := payloadBytes.tdiv policy.minimumGoodputBytesPerSec
    let remainingBytes := payloadBytes.tmod policy.minimumGoodputBytesPerSec
    let maximumDuration : ℤ := 2 ^ 63 - 1
    if wholeSeconds > (maximumDuration - policy.startupBudget).tdiv second then
      some maximumDuration
    else
      let transferBudget := wholeSeconds * second +
        if remainingBytes > 0 then
          if fraction remainingBytes ≤ 0 then 1 else fraction remainingBytes
        else 0
      if transferBudget > maximumDuration - policy.startupBudget then some maximumDuration
      else some (policy.startupBudget + transferBudget)

/-- `kcpSendQualityPolicy.hedgeBudget`. -/
def KCPSendQualityPolicy.hedgeBudget (policy : KCPSendQualityPolicy) (fraction : ℤ → ℤ)
    (payloadBytes : ℤ) : Option ℤ :=
  match policy.budget fraction payloadBytes with
  | some budget => some budget
  | none =>
    if payloadBytes ≥ 0 ∧ policy.minimumPayloadBytes > 0 ∧
        payloadBytes < policy.minimumPayloadBytes ∧ policy.controlHedgeBudget > 0 then
      some policy.controlHedgeBudget
    else none

/-- `frameRelayRouteQualityBudget`. -/
def frameRelayRouteQualityBudget (fraction : ℤ → ℤ) (payloadBytes : ℤ) : Option ℤ :=
  if payloadBytes ≤ 0 then none
  else defaultKCPSendQualityPolicy.hedgeBudget fraction (min payloadBytes (2 ^ 63 - 1))

/-! ## Goodput -/

/-- `frameRelaySlowRouteThreshold`. -/
def frameRelaySlowRouteThreshold : ℕ := 2

/-- `frameRelayGoodputWindow`. -/
def frameRelayGoodputWindow : ℤ := 2 * second

/-- `frameRelayGoodputCooldown`. -/
def frameRelayGoodputCooldown : ℤ := 30 * second

/-- `frameRelayGoodputState`. -/
structure FrameRelayGoodputState where
  windowStarted : ℤ
  windowSent : ℤ
  windowAcked : ℤ
  outstanding : ℤ
  lowWindowStreak : ℕ

/-- What the endpoint knows about the quality of its KCP legs. -/
structure LegQuality where
  slowKCPRoutes : GoMap LegID ℕ
  kcpGoodput : GoMap LegID FrameRelayGoodputState
  kcpCooldown : ℤ

/-- Nothing is known. -/
def LegQuality.new : LegQuality := ⟨.empty, .empty, 0⟩

/-- What a route knows about the progress of its message. `time.Time{}` is 0. -/
structure RouteQuality where
  payloadBytes : ℤ
  ackedBytes : ℤ
  ackProgress : List AckRange
  qualityKind : Option LegID
  qualitySent : ℤ
  qualityAcked : ℤ
  lastAckAt : ℤ
  submittedAt : ℤ
  sourceDone : Bool

/-- A route without frames. -/
def RouteQuality.new : RouteQuality := ⟨0, 0, [], none, 0, 0, 0, 0, false⟩

namespace LegQuality

/-- `kcpGoodputStateLocked`. -/
def kcpGoodputStateLocked (q : LegQuality) (kind : LegID) (now : ℤ) : FrameRelayGoodputState :=
  match q.kcpGoodput.get kind with
  | none => ⟨now, 0, 0, 0, 0⟩
  | some state => if state.windowStarted = 0 then { state with windowStarted := now } else state

/-- The goodput of a leg changes. -/
def setState (q : LegQuality) (kind : LegID) (state : FrameRelayGoodputState) : LegQuality :=
  { q with kcpGoodput := q.kcpGoodput.set kind state }

/-- `observeKCPDataSentLocked`. `outgoing` says that the route has no `sourceKey`. -/
def observeKCPDataSentLocked (q : LegQuality) (r : RouteQuality) (outgoing : Bool) (kind : LegID)
    (payloadBytes now : ℤ) : LegQuality × RouteQuality :=
  if !outgoing ∨ payloadBytes ≤ 0 ∨ kind.family ≠ .kcp then (q, r)
  else
    let state := q.kcpGoodputStateLocked kind now
    (q.setState kind { state with
        windowSent := state.windowSent + payloadBytes
        outstanding := state.outstanding + payloadBytes },
      { r with qualityKind := some kind, qualitySent := r.qualitySent + payloadBytes })

/-- `observeKCPDataAckedLocked`. -/
def observeKCPDataAckedLocked (q : LegQuality) (r : RouteQuality) (outgoing : Bool) (kind : LegID)
    (payloadBytes now : ℤ) : LegQuality × RouteQuality :=
  if !outgoing ∨ payloadBytes ≤ 0 ∨ kind.family ≠ .kcp ∨ r.qualitySent ≤ 0 then (q, r)
  else
    let state := q.kcpGoodputStateLocked kind now
    (q.setState kind { state with
        windowAcked := state.windowAcked + payloadBytes
        outstanding := max 0 (state.outstanding - payloadBytes) },
      { r with qualityAcked := min r.qualitySent (r.qualityAcked + payloadBytes) })

/-- The part of `releaseRouteFramesLocked` that takes back what the route has outstanding. -/
def release (q : LegQuality) (r : RouteQuality) : LegQuality :=
  let outstanding := r.qualitySent - r.qualityAcked
  if outstanding ≤ 0 then q
  else
    match r.qualityKind with
    | none => q
    | some kind =>
      match q.kcpGoodput.get kind with
      | none => q
      | some state =>
        q.setState kind { state with outstanding := max 0 (state.outstanding - outstanding) }

/-- One round of the loop of `observeKCPGoodputWindowsLocked`. `rate` is the floating-point division
of the acknowledged bytes by the length of the window. -/
def observeWindow (rate : ℤ → ℤ → ℤ) (now : ℤ) (found : LegQuality × List LegID) (kind : LegID) :
    LegQuality × List LegID :=
  match found.1.kcpGoodput.get kind with
  | none => found
  | some state =>
    let policy := defaultKCPSendQualityPolicy
    let elapsed := now - state.windowStarted
    if state.windowStarted = 0 ∨ now < state.windowStarted ∨ elapsed < frameRelayGoodputWindow then
      found
    else
      let next := { state with windowStarted := now, windowSent := 0, windowAcked := 0 }
      let idle := state.outstanding < policy.minimumPayloadBytes ∨
        state.windowAcked ≥ state.windowSent
      let keep (streak : ℕ) : LegQuality × List LegID :=
        (found.1.setState kind { next with lowWindowStreak := streak }, found.2)
      if state.windowSent < policy.minimumPayloadBytes then
        keep (if idle then 0 else state.lowWindowStreak)
      else if idle ∨ rate state.windowAcked elapsed ≥ policy.minimumGoodputBytesPerSec then keep 0
      else if state.lowWindowStreak + 1 < frameRelaySlowRouteThreshold then
        keep (state.lowWindowStreak + 1)
      else
        ({ found.1 with
          kcpGoodput := found.1.kcpGoodput.delete kind
          slowKCPRoutes := found.1.slowKCPRoutes.delete kind }, found.2 ++ [kind])

/-- `observeKCPGoodputWindowsLocked`: the legs whose goodput is too low. -/
def observeKCPGoodputWindowsLocked (q : LegQuality) (rate : ℤ → ℤ → ℤ) (order : GoMap.Order LegID)
    (now : ℤ) : LegQuality × List LegID :=
  if now < q.kcpCooldown then (q, [])
  else (order.visit q.kcpGoodput.keys).foldl (observeWindow rate now) (q, [])

/-- The part of `observeCompletedRouteLocked` behind its first check: a message that took longer
than its budget counts against its leg. `backup` is the first TCP leg with an adapter. -/
def observeCompleted (q : LegQuality) (fraction : ℤ → ℤ) (r : RouteQuality) (kind : LegID)
    (backup : Option LegID) (now : ℤ) : LegQuality × Option LegID :=
  match defaultKCPSendQualityPolicy.budget fraction r.payloadBytes with
  | none => (q, none)
  | some budget =>
    if now - r.submittedAt < budget then
      ({ q with slowKCPRoutes := q.slowKCPRoutes.delete kind }, none)
    else
      let slow := (q.slowKCPRoutes.get kind).getD 0 + 1
      if slow < frameRelaySlowRouteThreshold then
        ({ q with slowKCPRoutes := q.slowKCPRoutes.set kind slow }, none)
      else
        match backup with
        | none => ({ q with slowKCPRoutes := q.slowKCPRoutes.set kind slow }, none)
        | some id => ({ q with slowKCPRoutes := q.slowKCPRoutes.delete kind }, some id)

end LegQuality

end NatP2P.Network
