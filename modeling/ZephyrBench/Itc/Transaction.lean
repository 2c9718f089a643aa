/-
ZephyrBench.Itc.Transaction — one transaction of a direction.

`transaction`: `T_Arm*` lets the receiver go, then the sender; the message
passes, the stop markers are taken, and both peers wait for their semaphores
again. Then the pass of `T_Arm*` has its sample.

## How the proof goes

Up to the call of the sender the two directions are alike (`giveRecv`,
`giveArm`). From there on they differ in who runs first: in `up` the receiver
preempts the sender and takes its stop marker before the sender comes back
(`settleUp`), in `down` the sender finishes and the receiver runs when it waits
(`settleSend`, `settleRecv`, `settleDown`). The steps that the tests share are
executed here, those of a test come from its `Protocol`.

The history of the transaction is kept explicit: each stretch adds a known list
of entries, in terms of those that the test adds. That is what makes the pass
`Sampled` (`sampled_up`, `sampled_down`), which speaks of the order of the
markers and of who runs between them. The lists of a test are arbitrary except
that they have no markers and, between the send and the last marker, no one but
the peers.
-/
import ZephyrBench.Itc.Handoff

namespace ZephyrBench.Itc

open Rtos Rtos.Exec Thread Object Series Marker

variable {B : Bmth} {cfg : Config} {ipc : Ipc B}
  {own : TestState B → Thread → Statement B → Prop} (P : Protocol cfg ipc own)
  {E : List HistEntry}

/-! ## 1. Up to the call of the sender -/

theorem tRecvPrio_lt (d : Dir) : tRecvPrio d < 4 := by cases d <;> decide

theorem tSendPrio_lt (d : Dir) : tSendPrio d < 4 := by cases d <;> decide

attribute [local simp] Good HandoffStmt ScenarioStmt SelfStmt taskIdlePrio tSelfPrio tArmPrio
  blocked receiving armed sending sent recvMessage sendMessage IsPeer Blocked Armed Prog.takeIrq
  program

include P in
/-- `T_Arm*` lets the receiver go, which preempts it. -/
theorem giveRecv {d : Dir} {I : Store → Prop} {σ : Series → B.Series} {code : Code B}
    (s : TestState B)
    (h : Scene cfg ipc d I σ E (blocked ipc d (kcall (.kSemGive testRecvSem) :: code)) s) :
    Does cfg ipc own s (TracedScene cfg ipc d I σ E s.mem.time
      (.switch (some tArmThread) (some (tRecvThread d)) ::
        .exec tArmThread (.call (.kSemGive testRecvSem)) :: s.log)
      (receiving ipc d (recvMessage ipc d) code)) := by
  have hown := P.own_common
  have hr := Nat.not_le.mpr (tRecvPrio_lt d)
  cases h
  refine .step (by simp [*]) ?_
  simp [*]
  refine .done ?_
  constructor
  · constructor <;> simp [*]
  all_goals simp [*]

theorem nextSeries_mseriesFeed (ipc : Ipc B) (d : Dir) (n : Nat) (code : Code B) :
    nextSeries (mseriesFeed ipc d n ++ code) = some (.sendTo d n) := by
  cases h : ipc.rendezvous <;> simp [mseriesFeed, nextSeries, h]

/-- The series once the windows of a pass are open. -/
def opened (ipc : Ipc B) (d : Dir) (n : Nat) (σ : Series → B.Series) : Series → B.Series :=
  let σ' := Function.update σ (.sendTo d n) (B.mwindowOpen (σ (.sendTo d n)))
  if ipc.rendezvous then
    Function.update σ' (.rendezvousTo d n) (B.mwindowOpen (σ (.rendezvousTo d n)))
  else σ'

/-- The history `L` once the sender is about to take the start marker. -/
def released (ipc : Ipc B) (d : Dir) (n : Nat) (L : List HistEntry) : List HistEntry :=
  .exec (tSendThread d) (.prim .resetCounter) ::
    .switch (some tArmThread) (some (tSendThread d)) ::
    .exec tArmThread (.call (.kSemGive testArmSem)) ::
    if ipc.rendezvous then
      .exec tArmThread (.prim (.mwindowOpen (.rendezvousTo d n))) ::
        .exec tArmThread (.prim (.mwindowOpen (.sendTo d n))) :: L
    else .exec tArmThread (.prim (.mwindowOpen (.sendTo d n))) :: L

theorem began_released (ipc : Ipc B) (d : Dir) (n : Nat) {v : List HistEntry}
    (older : List HistEntry) (hv : v.filterMap markerOf = []) :
    Began (released ipc d n (v ++ .exec tArmThread (.call (.kSemGive testRecvSem)) :: older)) := by
  refine ⟨(released ipc d n []).take 2, (released ipc d n []).drop 3 ++ v, older, ?_, ?_, ?_⟩
  · cases h : ipc.rendezvous <;> simp [released, h]
  · simp [released, markerOf]
  · rw [List.filterMap_append, hv]
    cases h : ipc.rendezvous <;> simp [released, markerOf, h]

include P in
/-- `T_Arm*` opens the windows and lets the sender go, which takes the start
marker. -/
theorem giveArm {d : Dir} {n : Nat} (hn : n < cfg.messageSizeSteps) {I : Store → Prop}
    {σ : Series → B.Series} {τ : Marker → Nat} {L : List HistEntry} {code : Code B}
    (s : TestState B)
    (h : TracedScene cfg ipc d I σ E τ L (armed ipc d n (armAfterRecv ipc d n code)) s) :
    Does cfg ipc own s (TracedScene cfg ipc d I (opened ipc d n σ) E
      (Function.update τ testStartTime (released ipc d n L).length)
      (.exec (tSendThread d) (.prim (.getStartCnt testStartTime)) :: released ipc d n L)
      (sending ipc d n (sendMessage ipc d) (mseriesFeed ipc d n ++ code))) := by
  have hown := P.own_common
  have hlt := Nat.not_le.mpr (tSendPrio_lt d)
  have hnext := nextSeries_mseriesFeed ipc d n code
  have hpended : ∃ m, m < cfg.messageSizeSteps ∧ ipc.channel d n = ipc.channel d m :=
    ⟨n, hn, rfl⟩
  have hstep : ∃ m, m < cfg.messageSizeSteps ∧ n = m ∧ ipc.channel d n = ipc.channel d m :=
    ⟨n, hn, rfl, rfl⟩
  have hevents := h.eventLog
  obtain ⟨⟨_, _, _, _, _, _, _, _, _, _, _, _, _, _, _⟩, _, _⟩ := h
  cases hr : ipc.rendezvous
  case false =>
    iterate 4
      refine .step (by simp [*, armAfterRecv, mwindowsOpen]) ?_
      simp [*, armAfterRecv, mwindowsOpen]
    refine .done ?_
    constructor
    · constructor <;> simp [*, opened]
    all_goals simp [*, released]
  case true =>
    iterate 5
      refine .step (by simp [*, armAfterRecv, mwindowsOpen]) ?_
      simp [*, armAfterRecv, mwindowsOpen]
    refine .done ?_
    constructor
    · constructor <;> simp [*, opened]
    all_goals simp [*, released]

/-! ## 2. From the call of the sender: up -/

/-- The history `L` once the receiver of `up` waits for its semaphore. -/
def recvSettled (L : List HistEntry) : List HistEntry :=
  .switch (some (tRecvThread .up)) (some (tSendThread .up)) ::
    .exec (tRecvThread .up) (.call (.kSemTake testRecvSem .forever)) ::
    .exec (tRecvThread .up) (.prim (.getStopCnt testStopTime)) :: L

/-- The history `L` once both peers of `up` wait for their semaphores. -/
def settledUp (ipc : Ipc B) (L : List HistEntry) : List HistEntry :=
  .switch (some (tSendThread .up)) (some tArmThread) ::
    .exec (tSendThread .up) (.call (.kSemTake testArmSem .forever)) ::
    if ipc.rendezvous then
      .exec (tSendThread .up) (.prim (.getStopCnt testStopTimeRendezvous)) :: recvSettled L
    else recvSettled L

/-- The times of the stop markers of `up`. -/
def stopTimesUp (ipc : Ipc B) (τ : Marker → Nat) (L : List HistEntry) : Marker → Nat :=
  let τ' := Function.update τ testStopTime L.length
  if ipc.rendezvous then Function.update τ' testStopTimeRendezvous (recvSettled L).length else τ'

include P in
/-- `up`: the receiver, then the sender finish and wait for their semaphores. -/
theorem settleUp {n : Nat} (hn : n < cfg.messageSizeSteps) {σ : Series → B.Series}
    {τ : Marker → Nat} {L : List HistEntry} {code : Code B}
    (hnext : nextSeries code = some (.sendTo .up n)) (s : TestState B)
    (h : TracedScene cfg ipc .up (P.Settled .up n) σ E τ L
      (sent ipc .up [tRecvThread .up, tSendThread .up] (afterRecv ipc .up) code) s) :
    Does cfg ipc own s (TracedScene cfg ipc .up (P.Settled .up n) σ E (stopTimesUp ipc τ L)
      (settledUp ipc L) (blocked ipc .up code)) := by
  have hown := P.own_common
  have hstop := fun s => P.own_stop s .up n hn
  have hevents := h.eventLog
  obtain ⟨⟨_, _, _, _, _, _, _, _, _, _, _, _, _, _, _⟩, _, _⟩ := h
  -- T_RecvUp takes its marker and waits
  iterate 3
    refine .step (by simp [*, afterRecv, tRecvLoop]) ?_
    simp [*, afterRecv, tRecvLoop]
  cases hr : ipc.rendezvous
  case false =>
    iterate 2
      refine .step (by simp [*, afterSend, tSendLoop]) ?_
      simp [*, afterSend, tSendLoop]
    refine .done ?_
    constructor
    · constructor <;> simp [*, afterSend, afterRecv, tSendLoop, tRecvLoop]
    all_goals simp [*, stopTimesUp, settledUp, recvSettled]
  case true =>
    iterate 3
      refine .step (by simp [*, afterSend, tSendLoop]) ?_
      simp [*, afterSend, tSendLoop]
    refine .done ?_
    constructor
    · constructor <;> simp [*, afterSend, afterRecv, tSendLoop, tRecvLoop]
    all_goals simp [*, stopTimesUp, settledUp, recvSettled]

theorem markers_recvSettled {L : List HistEntry} (h : L.filterMap markerOf = []) :
    (recvSettled L).filterMap markerOf = [(tRecvThread .up, testStopTime)] := by
  have happ : recvSettled L = recvSettled [] ++ L := rfl
  rw [happ, List.filterMap_append, h]
  rfl

theorem sampled_up {mid before : List HistEntry} {τ : Marker → Nat} {s : TestState B}
    (hbegan : Began before) (hstart : τ testStartTime = before.length)
    (hmid : mid.filterMap markerOf = []) (hpeer : ∀ e ∈ mid, ByPeer .up e)
    (hlog : s.log = settledUp ipc
      (mid ++ .exec (tSendThread .up) (.prim (.getStartCnt testStartTime)) :: before))
    (htime : s.mem.time = stopTimesUp ipc τ
      (mid ++ .exec (tSendThread .up) (.prim (.getStartCnt testStartTime)) :: before)) :
    Sampled ipc .up s := by
  cases hr : ipc.rendezvous
  case false =>
    refine ⟨(settledUp ipc []).take 4,
      .exec (tRecvThread .up) (.prim (.getStopCnt testStopTime)) :: mid, before, ?_, hbegan,
      ?_, ?_, ?_, ?_, ?_⟩
    · simp [hlog, settledUp, recvSettled, hr]
    · simp [htime, stopTimesUp, hr, hstart]
    · simp [hmid, markerOf, stops, hr]
    · exact List.forall_mem_cons.mpr ⟨by simp [ByPeer], hpeer⟩
    · rintro t x hx
      obtain ⟨rfl, rfl⟩ : t = tRecvThread .up ∧ x = testStopTime := by simpa [stops, hr] using hx
      exact ⟨[], mid, by simp, by simp [htime, stopTimesUp, hr]⟩
    · simp [settledUp, recvSettled, hr, markerOf]
  case true =>
    refine ⟨(settledUp ipc []).take 2,
      .exec (tSendThread .up) (.prim (.getStopCnt testStopTimeRendezvous)) :: recvSettled mid,
      before, ?_, hbegan, ?_, ?_, ?_, ?_, ?_⟩
    · simp [hlog, settledUp, recvSettled, hr]
    · simp [htime, stopTimesUp, hr, hstart]
    · rw [List.filterMap_cons, markers_recvSettled hmid]
      simp [markerOf, stops, hr]
    · simpa [recvSettled, ByPeer] using hpeer
    · rintro t x hx
      obtain ⟨rfl, rfl⟩ | ⟨rfl, rfl⟩ : t = tSendThread .up ∧ x = testStopTimeRendezvous ∨
          t = tRecvThread .up ∧ x = testStopTime := by simpa [stops, hr] using hx
      · exact ⟨[], recvSettled mid, by simp, by simp [htime, stopTimesUp, recvSettled, hr]⟩
      · exact ⟨.exec (tSendThread .up) (.prim (.getStopCnt testStopTimeRendezvous)) ::
          (recvSettled []).take 2, mid, by simp [recvSettled], by simp [htime, stopTimesUp, hr]⟩
    · simp [settledUp, hr, markerOf]

/-! ## 3. From the call of the sender: down -/

/-- The history `L` once the sender of `down` waits for its semaphore. -/
def sendSettled (ipc : Ipc B) (L : List HistEntry) : List HistEntry :=
  .switch (some (tSendThread .down)) (some (tRecvThread .down)) ::
    .exec (tSendThread .down) (.call (.kSemTake testArmSem .forever)) ::
    if ipc.rendezvous then
      .exec (tSendThread .down) (.prim (.getStopCnt testStopTimeRendezvous)) :: L
    else L

/-- The history `L` once both peers of `down` wait for their semaphores. -/
def settledDown (L : List HistEntry) : List HistEntry :=
  .switch (some (tRecvThread .down)) (some tArmThread) ::
    .exec (tRecvThread .down) (.call (.kSemTake testRecvSem .forever)) ::
    .exec (tRecvThread .down) (.prim (.getStopCnt testStopTime)) :: L

/-- The times of the stop markers of `down`; `R` is the history of what the
receiver does in between. -/
def stopTimesDown (ipc : Ipc B) (τ : Marker → Nat) (R L : List HistEntry) : Marker → Nat :=
  let τ' := if ipc.rendezvous then Function.update τ testStopTimeRendezvous L.length else τ
  Function.update τ' testStopTime (R ++ sendSettled ipc L).length

include P in
/-- `down`: the sender takes its marker and waits for its semaphore. -/
theorem settleSend {σ : Series → B.Series} {τ : Marker → Nat} {L : List HistEntry}
    {recvCode code : Code B} {I : Store → Prop} (s : TestState B)
    (h : TracedScene cfg ipc .down I σ E τ L
      (sent ipc .down [tSendThread .down, tRecvThread .down] recvCode code) s) :
    Does cfg ipc own s (TracedScene cfg ipc .down I σ E
      (if ipc.rendezvous then Function.update τ testStopTimeRendezvous L.length else τ)
      (sendSettled ipc L) (receiving ipc .down recvCode code)) := by
  have hown := P.own_common
  have hevents := h.eventLog
  obtain ⟨⟨_, _, _, _, _, _, _, _, _, _, _, _, _, _, _⟩, _, _⟩ := h
  cases hr : ipc.rendezvous
  case false =>
    iterate 2
      refine .step (by simp [*, afterSend, tSendLoop]) ?_
      simp [*, afterSend, tSendLoop]
    refine .done ?_
    constructor
    · constructor <;> simp [*, afterSend, tSendLoop]
    all_goals simp [*, sendSettled]
  case true =>
    iterate 3
      refine .step (by simp [*, afterSend, tSendLoop]) ?_
      simp [*, afterSend, tSendLoop]
    refine .done ?_
    constructor
    · constructor <;> simp [*, afterSend, tSendLoop]
    all_goals simp [*, sendSettled]

include P in
/-- `down`: the receiver takes its marker and waits for its semaphore. -/
theorem settleRecv {n : Nat} (hn : n < cfg.messageSizeSteps) {σ : Series → B.Series}
    {τ : Marker → Nat} {L : List HistEntry} {code : Code B}
    (hnext : nextSeries code = some (.sendTo .down n)) (s : TestState B)
    (h : TracedScene cfg ipc .down (P.Settled .down n) σ E τ L
      (receiving ipc .down (afterRecv ipc .down) code) s) :
    Does cfg ipc own s (TracedScene cfg ipc .down (P.Settled .down n) σ E
      (Function.update τ testStopTime L.length) (settledDown L) (blocked ipc .down code)) := by
  have hown := P.own_common
  have hstop := fun s => P.own_stop s .down n hn
  have hevents := h.eventLog
  obtain ⟨⟨_, _, _, _, _, _, _, _, _, _, _, _, _, _, _⟩, _, _⟩ := h
  iterate 3
    refine .step (by simp [*, afterRecv, tRecvLoop]) ?_
    simp [*, afterRecv, tRecvLoop]
  refine .done ?_
  constructor
  · constructor <;> simp [*, afterRecv, tRecvLoop]
  all_goals simp [*, settledDown]

include P in
/-- `down`: the sender, then the receiver finish and wait for their
semaphores. -/
theorem settleDown {n : Nat} (hn : n < cfg.messageSizeSteps) {σ : Series → B.Series}
    {τ : Marker → Nat} {L : List HistEntry} {code : Code B}
    (hnext : nextSeries code = some (.sendTo .down n)) (s : TestState B)
    (h : TracedScene cfg ipc .down (P.Delivered n) σ E τ L
      (sent ipc .down [tSendThread .down, tRecvThread .down]
        (P.receivedDown.map act ++ afterRecv ipc .down) code) s) :
    Does cfg ipc own s (TracedScene cfg ipc .down (P.Settled .down n) σ E
      (stopTimesDown ipc τ (P.receivedLog n) L)
      (settledDown (P.receivedLog n ++ sendSettled ipc L)) (blocked ipc .down code)) := by
  refine (settleSend P s h).bind ?_
  intro s h
  refine (P.receivedDown_settles n hn _ _ _ _ _ s h).bind ?_
  intro s h
  exact settleRecv P hn hnext s h

theorem sendSettled_append (ipc : Ipc B) (L M : List HistEntry) :
    sendSettled ipc (L ++ M) = sendSettled ipc L ++ M := by
  cases hr : ipc.rendezvous <;> simp [sendSettled, hr]

theorem markers_sendSettled {L : List HistEntry} (h : L.filterMap markerOf = []) :
    (sendSettled ipc L).filterMap markerOf =
      if ipc.rendezvous then [(tSendThread .down, testStopTimeRendezvous)] else [] := by
  have happ := sendSettled_append ipc [] L
  rw [List.nil_append] at happ
  rw [happ, List.filterMap_append, h]
  cases hr : ipc.rendezvous <;> simp only [sendSettled, hr] <;> rfl

theorem peer_sendSettled {L : List HistEntry} (h : ∀ e ∈ L, ByPeer .down e) :
    ∀ e ∈ sendSettled ipc L, ByPeer .down e := by
  cases hr : ipc.rendezvous <;> simpa [sendSettled, hr, ByPeer] using h

theorem sampled_down {R mid before : List HistEntry} {τ : Marker → Nat} {s : TestState B}
    (hbegan : Began before) (hstart : τ testStartTime = before.length)
    (hmid : mid.filterMap markerOf = []) (hR : R.filterMap markerOf = [])
    (hpeer : ∀ e ∈ mid, ByPeer .down e) (hpeerR : ∀ e ∈ R, ByPeer .down e)
    (hlog : s.log = settledDown (R ++ sendSettled ipc
      (mid ++ .exec (tSendThread .down) (.prim (.getStartCnt testStartTime)) :: before)))
    (htime : s.mem.time = stopTimesDown ipc τ R
      (mid ++ .exec (tSendThread .down) (.prim (.getStartCnt testStartTime)) :: before)) :
    Sampled ipc .down s := by
  refine ⟨(settledDown []).take 2,
    .exec (tRecvThread .down) (.prim (.getStopCnt testStopTime)) :: (R ++ sendSettled ipc mid),
    before, ?_, hbegan, ?_, ?_, ?_, ?_, ?_⟩
  · simp [hlog, settledDown, sendSettled_append]
  · cases hr : ipc.rendezvous <;> simp [htime, stopTimesDown, hr, hstart]
  · rw [List.filterMap_cons, List.filterMap_append, hR, markers_sendSettled hmid]
    cases hr : ipc.rendezvous <;> simp [markerOf, stops, hr]
  · have hsend : ∀ e ∈ sendSettled ipc mid, ByPeer .down e := peer_sendSettled hpeer
    simp only [List.forall_mem_cons, List.forall_mem_append]
    exact ⟨by simp [ByPeer], hpeerR, hsend⟩
  · intro t x hx
    by_cases hx' : x = testStopTime
    case pos =>
      obtain rfl : t = tRecvThread .down := by
        cases hr : ipc.rendezvous <;> simpa [stops, hr, hx'] using hx
      refine ⟨[], R ++ sendSettled ipc mid, by simp [hx'], ?_⟩
      simp [hx', htime, stopTimesDown, sendSettled_append]
    case neg =>
      cases hr : ipc.rendezvous
      case false => simp_all [stops]
      case true =>
        obtain ⟨rfl, rfl⟩ : t = tSendThread .down ∧ x = testStopTimeRendezvous := by
          simpa [stops, hr, hx'] using hx
        refine ⟨.exec (tRecvThread .down) (.prim (.getStopCnt testStopTime)) ::
          (R ++ (sendSettled ipc []).take 2), mid, by simp [sendSettled, hr], ?_⟩
        simp [htime, stopTimesDown, hr]
  · simp [settledDown, markerOf]

/-! ## 4. The transaction -/

include P in
/-- A transaction settles, and the pass of `T_Arm*` has its sample. -/
theorem transaction {d : Dir} {n : Nat} (hn : n < cfg.messageSizeSteps) {σ : Series → B.Series}
    {code : Code B} (s : TestState B)
    (h : Scene cfg ipc d (P.Ready d n) σ E
      (blocked ipc d (kcall (.kSemGive testRecvSem) :: armAfterRecv ipc d n code)) s) :
    Does cfg ipc own s fun t =>
      Scene cfg ipc d (P.Settled d n) (opened ipc d n σ) E
        (blocked ipc d (mseriesFeed ipc d n ++ code)) t ∧
      Sampled ipc d t := by
  refine (giveRecv P s h).bind ?_
  intro s₁ h₁
  refine (P.recv d n hn _ _ _ _ _ s₁ h₁).bind ?_
  intro s₂ h₂
  refine (giveArm P hn s₂ h₂).bind ?_
  intro s₃ h₃
  have hmarkers : List.filterMap markerOf (P.recvLog d n ++
      [Entry.switch (some tArmThread) (some (tRecvThread d))]) = [] := by
    rw [List.filterMap_append, P.markers_recvLog]
    rfl
  have hbegan := began_released ipc d n s.log hmarkers
  simp only [List.append_assoc, List.cons_append, List.nil_append] at hbegan
  have hnext := nextSeries_mseriesFeed ipc d n code
  have hmid := P.markers_sendLog d n
  have hpeer := P.peer_sendLog d n
  cases d
  case up =>
    refine (P.sendUp n hn _ _ _ _ _ s₃ h₃).bind ?_
    intro s₄ h₄
    refine (settleUp P hn hnext s₄ h₄).mono fun t ht => ⟨ht.toScene, ?_⟩
    exact sampled_up hbegan (by simp) hmid hpeer ht.log ht.time
  case down =>
    refine (P.sendDown n hn _ _ _ _ _ s₃ h₃).bind ?_
    intro s₄ h₄
    refine (settleDown P hn hnext s₄ h₄).mono fun t ht => ⟨ht.toScene, ?_⟩
    exact sampled_down hbegan (by simp) hmid (P.markers_receivedLog n) hpeer
      (P.peer_receivedLog n) ht.log ht.time

end ZephyrBench.Itc
