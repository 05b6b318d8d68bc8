import Mathlib.Algebra.GroupWithZero.Nat
import Sm8150Common.Library.Progress
import Sm8150Common.PipelineOrder

/-!
# The pending queue drains

What is pending gets out through `handlePendingWrites` (`HalProxy.cpp`, lines 579–619),
a chunk of at most `getQuantumCount` events at a time.  A batch longer than the event
queue needs several chunks; one that fails is dropped like one that succeeds.

`drains` says that this comes to an end under every schedule: once the sub-HALs have
stopped posting, the post in progress and the worker take a bounded number of steps, can
always take one until nothing is pending, and the worker calls `writeBlocking` once for
each chunk.
-/
namespace SensorsHal

/-- The chunks of `n` events in an event queue for `quantumCount`. -/
def chunks (quantumCount n : Nat) : Nat := (n + quantumCount - 1) / quantumCount

@[simp] theorem chunks_zero (quantumCount : Nat) : chunks quantumCount 0 = 0 := by
  rw [chunks, Nat.zero_add]
  rcases Nat.eq_zero_or_pos quantumCount with h | h
  · rw [h]
  · exact Nat.div_eq_of_lt (by omega)

section Chunks
variable {quantumCount : Nat} (hq : 0 < quantumCount)
include hq

/-- A batch that fits is one chunk. -/
theorem chunks_of_le {n : Nat} (hpos : 0 < n) (hle : n ≤ quantumCount) :
    chunks quantumCount n = 1 := by
  have hsplit : n + quantumCount - 1 = (n - 1) + quantumCount := by omega
  rw [chunks, hsplit, Nat.add_div_right _ hq, Nat.div_eq_of_lt (by omega)]

/-- A longer one is one more than what is left behind its first chunk. -/
theorem chunks_of_lt {n : Nat} (hlt : quantumCount < n) :
    chunks quantumCount n = chunks quantumCount (n - quantumCount) + 1 := by
  have hsplit : n + quantumCount - 1 = (n - quantumCount + quantumCount - 1) + quantumCount := by
    omega
  rw [chunks, hsplit, Nat.add_div_right _ hq, chunks]

omit hq in
theorem chunks_mono {n m : Nat} (h : n ≤ m) : chunks quantumCount n ≤ chunks quantumCount m :=
  Nat.div_le_div_right (by omega)

end Chunks

namespace EventPipeline
variable {ε : Type} (p : EventPipeline ε)

/-- The chunks of the pending queue. -/
def chunksLeft : Nat :=
  (p.mPendingWriteEventsQueue.map fun entry =>
    chunks p.mEventQueue.quantumCount entry.1.length).sum

theorem chunksLeft_pushPending (eventsLeft : List ε) (numWakeupEvents : Nat) :
    (p.pushPending eventsLeft numWakeupEvents).chunksLeft =
      p.chunksLeft + chunks p.mEventQueue.quantumCount eventsLeft.length := by
  simp [chunksLeft, pushPending]

@[simp] theorem quantumCount_directWrite (events : List ε) (numToWrite : Nat) (succeeds : Bool) :
    (p.directWrite events numToWrite succeeds).1.mEventQueue.quantumCount =
      p.mEventQueue.quantumCount := by
  rcases p.directWrite_cases events numToWrite succeeds with h | ⟨-, -, queue, -, hq, h⟩
  · rw [h]
  · rw [h]
    exact hq

@[simp] theorem pending_directWrite (events : List ε) (numToWrite : Nat) (succeeds : Bool) :
    (p.directWrite events numToWrite succeeds).1.mPendingWriteEventsQueue =
      p.mPendingWriteEventsQueue := by
  rcases p.directWrite_cases events numToWrite succeeds with h | ⟨-, -, queue, -, -, h⟩ <;> rw [h]

@[simp] theorem mEventQueue_storeRemainder (limits : Limits) (events : List ε)
    (numWakeupEvents numToWrite : Nat) :
    (p.storeRemainder limits events numWakeupEvents numToWrite).mEventQueue = p.mEventQueue := by
  unfold storeRemainder
  split <;> rfl

@[simp] theorem mEventQueue_retireChunk (it : Iteration) :
    (p.retireChunk it).mEventQueue = p.mEventQueue := by
  unfold retireChunk
  split <;> rfl

@[simp] theorem chunksLeft_directWrite (events : List ε) (numToWrite : Nat) (succeeds : Bool) :
    (p.directWrite events numToWrite succeeds).1.chunksLeft = p.chunksLeft := by
  rw [chunksLeft, pending_directWrite, quantumCount_directWrite, chunksLeft]

/-- Storing the remainder costs its chunks at most. -/
theorem chunksLeft_storeRemainder (limits : Limits) (events : List ε)
    (numWakeupEvents numToWrite : Nat) :
    (p.storeRemainder limits events numWakeupEvents numToWrite).chunksLeft ≤
      p.chunksLeft + chunks p.mEventQueue.quantumCount (events.drop numToWrite).length := by
  unfold storeRemainder
  split
  · exact Nat.le_of_eq (p.chunksLeft_pushPending _ _)
  · exact Nat.le_add_right _ _

/-- Every iteration takes one chunk off. -/
theorem chunksLeft_retireChunk {front : List ε × Nat} {rest : List (List ε × Nat)}
    (hq : 0 < p.mEventQueue.quantumCount) (hpend : p.mPendingWriteEventsQueue = front :: rest)
    (hne : front.1 ≠ []) :
    (p.retireChunk (p.beginIteration front)).chunksLeft + 1 = p.chunksLeft := by
  have hpos : 0 < front.1.length := List.length_pos_iff.mpr hne
  have hold : p.chunksLeft = chunks p.mEventQueue.quantumCount front.1.length +
      (rest.map fun entry => chunks p.mEventQueue.quantumCount entry.1.length).sum := by
    rw [chunksLeft, hpend, List.map_cons, List.sum_cons]
  rw [hold, chunksLeft, retireChunk, hpend]
  dsimp only [beginIteration, Iteration.ofFront]
  unfold retireEntry
  split
  · rename_i hlt
    rw [chunks_of_lt hq hlt]
    simp only [Option.toList_some, List.cons_append, List.nil_append, List.map_cons, List.sum_cons,
      List.length_drop]
    omega
  · rename_i hle
    rw [chunks_of_le hq hpos (Nat.le_of_not_lt hle)]
    simp only [Option.toList_none, List.nil_append]
    omega

end EventPipeline
namespace PipelineRun
variable {α ε : Type}

/-! ## The steps that are left -/

def WorkerStage.left : WorkerStage → Nat
  | .waiting => 3
  | .holding => 2
  | .writing _ => 1
  | .returned _ => 0

def PostStage.left : PostStage → Nat
  | .probing => 3
  | .writing _ => 2
  | .storing _ => 1

/-- An upper bound on the steps until nothing is pending: three for each chunk, and what
the post and the worker are in the middle of. -/
def stepsLeft (s : PipelineRun α ε) : Nat :=
  3 * (s.pipeline.chunksLeft + chunks s.pipeline.mEventQueue.quantumCount s.held.length) +
    WorkerStage.left s.worker + s.post.elim 0 fun post => PostStage.left post.stage

/-- Nothing is pending, and no post is in progress. -/
def Drained (s : PipelineRun α ε) : Prop :=
  s.pipeline.mPendingWriteEventsQueue = [] ∧ s.post = none

/-- A step of the post in progress or of the worker. -/
def isInternal : PipelineStep ε → Bool
  | .post .. | .read _ => false
  | _ => true

def isRead : PipelineStep ε → Prop
  | .read _ => True
  | _ => False

/-- The end of an iteration of the worker. -/
def isRetire : PipelineStep ε → Bool
  | .retire => true
  | _ => false

section Steps
variable {limits : Limits} {process : α → ε → ε × α} {s t : PipelineRun α ε}

/-- What the steps rely on: the invariant, and an event queue with room for an event. -/
def Ready (limits : Limits) (s : PipelineRun α ε) : Prop :=
  Consistent limits s ∧ 0 < s.pipeline.mEventQueue.quantumCount

/-- No step changes the size of the event queue. -/
theorem quantumCount_step {l : PipelineStep ε} (h : step limits process s l = some t) :
    t.pipeline.mEventQueue.quantumCount = s.pipeline.mEventQueue.quantumCount := by
  cases l with
  | post eventsList numWakeupEvents =>
    obtain ⟨-, rfl⟩ := Option.ite_none_right_eq_some.mp h |>.imp_right Option.some.inj
    rfl
  | probe | write | store =>
    dsimp only [step] at h
    split at h
    · cases h
      simp [store]
    · cases h
  | writeBlocking succeeds =>
    dsimp only [step] at h
    split at h
    · rename_i it front rest hworker hpend
      cases h
      rcases s.pipeline.mEventQueue.write_cases (front.1.take it.numToWrite) succeeds with
        hfail | ⟨-, -, hq⟩
      · rw [writeChunk, hfail]
      · exact hq
    · cases h
  | wake | test =>
    obtain ⟨-, ht⟩ := Option.ite_none_right_eq_some.mp h
    first
    | split at ht <;> cases ht <;> rfl
    | cases ht; rfl
  | retire =>
    dsimp only [step] at h
    split at h
    · obtain ⟨-, rfl⟩ := Option.ite_none_right_eq_some.mp h |>.imp_right Option.some.inj
      simp
    · cases h
  | read n =>
    cases h
    rfl

theorem Ready.step {l : PipelineStep ε} (hs : Ready limits s)
    (h : step limits process s l = some t) : Ready limits t :=
  ⟨(simulated_step hs.1 h).1, (quantumCount_step h).symm ▸ hs.2⟩

/-- The steps of a post are steps of one that is in progress. -/
theorem post_of_step {l : PipelineStep ε}
    (hl : l = .probe ∨ (∃ succeeds, l = .write succeeds) ∨ l = .store)
    (h : step limits process s l = some t) : ∃ post, s.post = some post := by
  obtain rfl | ⟨succeeds, rfl⟩ | rfl := hl <;>
  · dsimp only [step] at h
    split at h
    · exact ⟨_, ‹_›⟩
    · cases h

/-- A post writes or stores its events: what it holds no longer costs. -/
theorem stepsLeft_post {post : Post ε} (hpost : s.post = some post) {l : PipelineStep ε}
    (hl : l = .probe ∨ (∃ succeeds, l = .write succeeds) ∨ l = .store)
    (h : step limits process s l = some t) : t.stepsLeft < s.stepsLeft := by
  obtain ⟨events, numWakeupEvents, stage⟩ := post
  obtain rfl | ⟨succeeds, rfl⟩ | rfl := hl
  · rw [PipelineRun.step, hpost] at h
    cases stage with
    | probing =>
      cases h
      simp [stepsLeft, held, hpost, PostStage.left]
    | writing numToWrite => cases h
    | storing numToWrite => cases h
  · rw [PipelineRun.step, hpost] at h
    cases stage with
    | probing => cases h
    | writing numToWrite =>
      have ht : t = { s with
          pipeline := (s.pipeline.directWrite events numToWrite succeeds).1
          post := some ⟨events, numWakeupEvents,
            .storing (s.pipeline.directWrite events numToWrite succeeds).2⟩
          written := s.written ++
            events.take (s.pipeline.directWrite events numToWrite succeeds).2 } :=
        (Option.some.inj h).symm
      -- what is written at once is no longer held
      have hle := @chunks_mono s.pipeline.mEventQueue.quantumCount _ _
        (Nat.sub_le events.length (s.pipeline.directWrite events numToWrite succeeds).2)
      rw [ht]
      simp [stepsLeft, held, hpost, PostStage.left]
      omega
    | storing numToWrite => cases h
  · rw [PipelineRun.step, hpost] at h
    cases stage with
    | probing => cases h
    | writing numToWrite => cases h
    | storing numToWrite =>
      cases h
      have hle := s.pipeline.chunksLeft_storeRemainder limits events numWakeupEvents numToWrite
      simp [stepsLeft, held, hpost, PostStage.left, store] at hle ⊢
      omega

/-- So does the worker, as long as something is pending. -/
theorem stepsLeft_worker (hs : Ready limits s) {l : PipelineStep ε}
    (hpend : s.pipeline.mPendingWriteEventsQueue ≠ [])
    (hl : l = .wake ∨ l = .test ∨ (∃ succeeds, l = .writeBlocking succeeds) ∨ l = .retire)
    (h : step limits process s l = some t) : t.stepsLeft < s.stepsLeft := by
  obtain rfl | rfl | ⟨succeeds, rfl⟩ | rfl := hl
  · obtain ⟨⟨hworker, -⟩, ht⟩ := Option.ite_none_right_eq_some.mp h
    cases ht
    simp [stepsLeft, held, hworker, WorkerStage.left]
  · obtain ⟨hworker, ht⟩ := Option.ite_none_right_eq_some.mp h
    split at ht
    · rename_i hnil
      exact absurd hnil hpend
    · cases ht
      simp [stepsLeft, held, hworker, WorkerStage.left]
  · have hquantum := quantumCount_step h
    dsimp only [step] at h
    split at h
    · rename_i it front rest hworker hcons
      cases h
      have hchunks : (s.writeChunk it (front.1.take it.numToWrite) succeeds).pipeline.chunksLeft =
          s.pipeline.chunksLeft := by
        rw [EventPipeline.chunksLeft, hquantum]
        rfl
      rw [stepsLeft, hchunks, hquantum]
      simp [stepsLeft, writeChunk, held, hworker, WorkerStage.left]
    · cases h
  · dsimp only [step] at h
    split at h
    · rename_i it hworker
      obtain ⟨-, ht⟩ := Option.ite_none_right_eq_some.mp h
      cases ht
      have hok := hs.1.worker_stage
      rw [hworker] at hok
      -- it is the entry at the front that gets shorter or goes
      obtain ⟨front, rest, hcons, rfl⟩ := hok
      have hne := hs.1.sized.nonempty front (hcons ▸ List.mem_cons_self)
      have hless := s.pipeline.chunksLeft_retireChunk hs.2 hcons hne
      simp [stepsLeft, held, hworker, WorkerStage.left]
      omega
    · cases h

/-- Every internal step counts, unless there is nothing to do. -/
theorem stepsLeft_internal (hs : Ready limits s) (hset : ¬ s.Drained) {l : PipelineStep ε}
    (hl : isInternal l = true) (h : step limits process s l = some t) :
    t.stepsLeft < s.stepsLeft := by
  have hpend : s.post = none → s.pipeline.mPendingWriteEventsQueue ≠ [] :=
    fun hpost hnil => hset ⟨hnil, hpost⟩
  cases l with
  | post | read => cases hl
  | probe =>
    obtain ⟨post, hpost⟩ := post_of_step (Or.inl rfl) h
    exact stepsLeft_post hpost (Or.inl rfl) h
  | write succeeds =>
    obtain ⟨post, hpost⟩ := post_of_step (Or.inr (Or.inl ⟨succeeds, rfl⟩)) h
    exact stepsLeft_post hpost (Or.inr (Or.inl ⟨succeeds, rfl⟩)) h
  | store =>
    obtain ⟨post, hpost⟩ := post_of_step (Or.inr (Or.inr rfl)) h
    exact stepsLeft_post hpost (Or.inr (Or.inr rfl)) h
  | wake =>
    obtain ⟨⟨-, hfree, -⟩, -⟩ := Option.ite_none_right_eq_some.mp h
    exact stepsLeft_worker hs (hpend (Option.isNone_iff_eq_none.mp hfree)) (Or.inl rfl) h
  | test =>
    obtain ⟨hworker, -⟩ := Option.ite_none_right_eq_some.mp h
    exact stepsLeft_worker hs (hpend (hs.1.exclusive hworker)) (Or.inr (Or.inl rfl)) h
  | writeBlocking succeeds =>
    refine stepsLeft_worker hs (fun hnil => ?_) (Or.inr (Or.inr (Or.inl ⟨succeeds, rfl⟩))) h
    dsimp only [step] at h
    split at h
    · rename_i hcons
      rw [hnil] at hcons
      cases hcons
    · cases h
  | retire =>
    refine stepsLeft_worker hs (hpend ?_) (Or.inr (Or.inr (Or.inr rfl))) h
    dsimp only [step] at h
    split at h
    · obtain ⟨hfree, -⟩ := Option.ite_none_right_eq_some.mp h
      exact Option.isNone_iff_eq_none.mp hfree.1
    · cases h

/-- Until nothing is pending, the post in progress or the worker can move. -/
theorem exists_internal (limits : Limits) (process : α → ε → ε × α) (hset : ¬ s.Drained) :
    ∃ l, isInternal l = true ∧ (step limits process s l).isSome = true := by
  cases hpost : s.post with
  | some post =>
    obtain ⟨events, numWakeupEvents, stage⟩ := post
    cases stage with
    | probing => exact ⟨.probe, rfl, by rw [PipelineRun.step, hpost]; rfl⟩
    | writing numToWrite => exact ⟨.write true, rfl, by rw [PipelineRun.step, hpost]; rfl⟩
    | storing numToWrite => exact ⟨.store, rfl, by rw [PipelineRun.step, hpost]; rfl⟩
  | none =>
    -- the worker has something to write, and the mutex is there for it
    obtain ⟨front, rest, hcons⟩ := List.exists_cons_of_ne_nil fun hnil => hset ⟨hnil, hpost⟩
    have hfree : s.worker ≠ .holding → s.MutexFree := fun hw => ⟨by rw [hpost]; rfl, hw⟩
    cases hworker : s.worker with
    | waiting =>
      refine ⟨.wake, rfl, ?_⟩
      rw [PipelineRun.step, if_pos ⟨hworker, hfree (by simp [hworker])⟩]
      rfl
    | holding => exact ⟨.test, rfl, by rw [PipelineRun.step, if_pos hworker, hcons]; rfl⟩
    | writing it =>
      exact ⟨.writeBlocking true, rfl, by rw [PipelineRun.step, hworker, hcons]; rfl⟩
    | returned it =>
      refine ⟨.retire, rfl, ?_⟩
      rw [PipelineRun.step, hworker]
      dsimp only
      rw [if_pos (hfree (by simp [hworker]))]
      rfl

/-- The worker comes to the end of the pending queue, whoever moves when. -/
theorem ranked (limits : Limits) (process : α → ε → ε × α) :
    StepMachine.Ranked (machine limits process) (Ready limits) isInternal (fun _ l => isRead l)
      stepsLeft Drained where
  lowers s l t hs hset hl h := ⟨hs.step h, stepsLeft_internal hs hset hl h⟩
  waits s l t hs hl hread h := by
    refine ⟨hs.step h, ?_⟩
    cases l with
    | read n =>
      cases h
      exact Nat.le_refl _
    | _ => cases hread
  enabled s hs hset := by
    obtain ⟨l, hl, hsome⟩ := exists_internal limits process hset
    obtain ⟨t, ht⟩ := Option.isSome_iff_exists.mp hsome
    exact ⟨l, t, hl, ht⟩

/-! ## Iterations -/

theorem chunksLeft_congr {p p' : EventPipeline ε}
    (hpend : p'.mPendingWriteEventsQueue = p.mPendingWriteEventsQueue)
    (hq : p'.mEventQueue.quantumCount = p.mEventQueue.quantumCount) :
    p'.chunksLeft = p.chunksLeft := by
  rw [EventPipeline.chunksLeft, hpend, hq, EventPipeline.chunksLeft]

/-- With no post in progress and no new one, each iteration ends with one chunk less, and
nothing else changes their number. -/
theorem chunksLeft_step (hs : Ready limits s) (hpost : s.post = none) {l : PipelineStep ε}
    (hl : isInternal l = true ∨ isRead l) (h : step limits process s l = some t) :
    t.post = none ∧ (if isRetire l then 1 else 0) + t.pipeline.chunksLeft = s.pipeline.chunksLeft := by
  have hq := quantumCount_step h
  have hposting : ∀ {l : PipelineStep ε}, (l = .probe ∨ (∃ succeeds, l = .write succeeds) ∨
      l = .store) → step limits process s l ≠ some t := by
    intro l hl hstep
    obtain ⟨post, hsome⟩ := post_of_step hl hstep
    rw [hpost] at hsome
    cases hsome
  cases l with
  | post => rcases hl with hl | hl <;> cases hl
  | probe => exact absurd h (hposting (Or.inl rfl))
  | write succeeds => exact absurd h (hposting (Or.inr (Or.inl ⟨succeeds, rfl⟩)))
  | store => exact absurd h (hposting (Or.inr (Or.inr rfl)))
  | wake =>
    obtain ⟨-, ht⟩ := Option.ite_none_right_eq_some.mp h
    cases ht
    exact ⟨hpost, Nat.zero_add _⟩
  | test =>
    obtain ⟨-, ht⟩ := Option.ite_none_right_eq_some.mp h
    split at ht <;> cases ht <;> exact ⟨hpost, Nat.zero_add _⟩
  | writeBlocking succeeds =>
    dsimp only [step] at h
    split at h
    · cases h
      exact ⟨hpost, (Nat.zero_add _).trans (chunksLeft_congr rfl hq)⟩
    · cases h
  | retire =>
    dsimp only [step] at h
    split at h
    · rename_i it hworker
      obtain ⟨-, ht⟩ := Option.ite_none_right_eq_some.mp h
      cases ht
      have hok := hs.1.worker_stage
      rw [hworker] at hok
      obtain ⟨front, rest, hcons, rfl⟩ := hok
      have hne := hs.1.sized.nonempty front (hcons ▸ List.mem_cons_self)
      exact ⟨hpost, (Nat.add_comm _ _).trans (s.pipeline.chunksLeft_retireChunk hs.2 hcons hne)⟩
    · cases h
  | read n =>
    cases h
    exact ⟨hpost, (Nat.zero_add _).trans (chunksLeft_congr rfl hq)⟩

/-- **The pending queue drains.**  From any state of a session, with the sub-HALs no
longer posting: a run takes at most `stepsLeft` steps of the post in progress and of the
worker before nothing is pending, however reads come in between and whichever writes
fail; wherever none of these steps can be taken, nothing is pending; a run from a state
without a post in progress to one where nothing is pending has one iteration of the
worker for each chunk; and there is a run to a state where nothing is pending. -/
theorem drains (limits : Limits) (process : α → ε → ε × α) {s : PipelineRun α ε}
    (hreach : (machine limits process).Reachable s)
    (hq : 0 < s.pipeline.mEventQueue.quantumCount) :
    (∀ ls t, (machine limits process).Along
        (StepMachine.Working isInternal (fun _ l => isRead l) Drained) s ls →
      (machine limits process).exec s ls = some t →
        ls.countP isInternal ≤ s.stepsLeft ∧
        ((∀ l r, isInternal l = true → (machine limits process).step t l ≠ some r) → t.Drained) ∧
        (s.post = none → t.Drained → ls.countP isRetire = s.pipeline.chunksLeft)) ∧
    ∃ ls t, (machine limits process).exec s ls = some t ∧ t.Drained ∧
      ∀ l ∈ ls, isInternal l = true := by
  have hs : Ready limits s := ⟨((simulation limits process).reachable hreach).1, hq⟩
  have hranked := ranked (α := α) limits process
  refine ⟨fun ls t halong hrun => ?_, ?_⟩
  · obtain ⟨ht, hle⟩ := hranked.count_le hs halong hrun
    refine ⟨by omega, hranked.settled_of_stuck ht, fun hpost hdrained => ?_⟩
    -- each iteration takes away one chunk, and none is left at the end
    have haccount := StepMachine.exec_account Eq (fun _ => rfl) Eq.trans
      (fun a _ _ h => congrArg (a + ·) h) (fun s => Ready limits s ∧ s.post = none)
      isRetire (fun s => s.pipeline.chunksLeft) ?_ ⟨hs, hpost⟩ halong hrun
    · rw [EventPipeline.chunksLeft, hdrained.1] at haccount
      simpa using haccount.2
    · rintro s l t ⟨hs, hpost⟩ hl hstep
      have hkind : isInternal l = true ∨ isRead l := by
        unfold StepMachine.Working at hl
        split at hl
        · exact Or.inl ‹_›
        · exact Or.inr hl
      obtain ⟨hpost', hcost⟩ := chunksLeft_step hs hpost hkind hstep
      exact ⟨⟨hs.step hstep, hpost'⟩, hcost⟩
  · obtain ⟨ls, t, -, hrun, -, hdrained, hall⟩ := hranked.settles hs
    exact ⟨ls, t, hrun, hdrained, hall⟩

end Steps

/-- Of five events two are written at once; the other three are two chunks. -/
theorem drains_example : ∃ s : PipelineRun Unit Nat, s.pipeline.chunksLeft = 2 ∧
    ∃ ls t, (machine ⟨8, 8, by decide⟩ fun s event => (event, s)).exec s ls = some t ∧
      t.Drained := by
  have hinit : (machine ⟨8, 8, by decide⟩ fun s event => (event, s)).init
      (⟨⟨⟨2, [], by decide⟩, [], 0, 0⟩, (), none, .waiting, [], [], [], [], []⟩ :
        PipelineRun Unit Nat) :=
    ⟨rfl, rfl, rfl, rfl, rfl, rfl, rfl, rfl, rfl, rfl⟩
  have hrun : (machine ⟨8, 8, by decide⟩ fun s event => (event, s)).exec
      (⟨⟨⟨2, [], by decide⟩, [], 0, 0⟩, (), none, .waiting, [], [], [], [], []⟩ :
        PipelineRun Unit Nat) [.post [1, 2, 3, 4, 5] 0, .probe, .write true, .store] =
      some ⟨⟨⟨2, [1, 2], by decide⟩, [([3, 4, 5], 0)], 3, 3⟩, (), none, .waiting,
        [1, 2, 3, 4, 5], [1, 2], [], [], []⟩ :=
    rfl
  obtain ⟨-, ls, t, hexec, hdrained, -⟩ :=
    drains _ _ (StepMachine.Reachable.exec (.init hinit) hrun) (by decide)
  exact ⟨_, rfl, ls, t, hexec, hdrained⟩

end PipelineRun
end SensorsHal
