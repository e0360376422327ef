import PooleOS.Lib.Agenda
import PooleOS.Lib.Ordered
import PooleOS.Preempt.Model

/- The event queue: what `validate` accepts is an ordered queue of events still
to come, and queueing an event keeps it so. -/
namespace PooleOS.Preempt

open BspPreemption
open Op (run_bind_eq_ok run_bind_ok run_lift run_lift_eq_ok run_pure_eq_ok run_read_eq_ok)

section

variable {p p' : BspPreemption} {items : List DeferredEvent} {event : DeferredEvent}

/-- An accepted lane whose queue holds these events. -/
structure Sound (p : BspPreemption) (items : List DeferredEvent) : Prop where
  quantum : minQuantumTicks ≤ p.quantumTicks ∧ p.quantumTicks ≤ maxQuantumTicks
  positive : p.quantumRemaining ≠ 0
  within : p.quantumRemaining ≤ p.quantumTicks
  events : p.events = Slots.ofList items
  fits : items.length ≤ 8
  future : ∀ event ∈ items, p.timerTicks < event.dueTick
  ordered : Agenda.Ordered DeferredEvent.dueTick items
  scheduler : p.scheduler.validate = .ok ()

section Validation

theorem validateEvent_steps : Slots.Steps p.events DeferredEvent.dueTick
    (fun event => p.timerTicks < event.dueTick) p.validateEvent := by
  intro prior cursor due
  unfold validateEvent
  cases p.events.get cursor with
  | none => simp [orError, bind, Except.bind]
  | some event =>
    simp only [orError_some, Option.some.injEq, exists_eq_left']
    exact demand_bind_eq_ok.trans (and_congr_right fun _ => by simp [pure, Except.pure])

theorem sound_of_validate (ok : p.validate = .ok ()) : ∃ items, Sound p items := by
  unfold validate at ok
  obtain ⟨⟨quantum, positive, within, few, clear⟩, rest⟩ := demand_bind_eq_ok.mp ok
  obtain ⟨due, loop, core⟩ := bind_eq_ok rest
  obtain ⟨_, items, length, cells, future, ordered⟩ := validateEvent_steps.read loop
  refine ⟨items, quantum, positive, within, Slots.eq_ofList length few cells clear, length ▸ few,
    fun event member => (future event member).1, ordered, ?_⟩
  cases accepted : p.scheduler.validate with
  | ok done => rfl
  | error reason =>
    rw [accepted] at core
    cases core

theorem Sound.get (sound : Sound p items) (index : Nat) : p.events.get index = items[index]? := by
  rw [sound.events, Slots.get_ofList sound.fits]

theorem Sound.len (sound : Sound p items) : p.events.len = items.length := by
  rw [sound.events, Slots.ofList_len]

theorem Sound.validate (sound : Sound p items) : p.validate = .ok () := by
  unfold BspPreemption.validate
  refine demand_bind_eq_ok.mpr ⟨⟨sound.quantum, sound.positive, sound.within,
    sound.len ▸ sound.fits, fun cell past => ?_⟩, ?_⟩
  · rw [sound.events]
    exact Slots.clear_ofList sound.fits cell (sound.len ▸ past)
  · obtain ⟨due, loop⟩ := validateEvent_steps.ok rfl (fun index _ => sound.get index)
      (fun event member => ⟨sound.future event member, Nat.le_of_lt (sound.future event member)⟩)
      sound.ordered
    rw [sound.len, loop, sound.scheduler]
    rfl

end Validation

section Insertion

/-- The loop stops behind the last event that is not later than the new one. -/
theorem makeRoom_run (room : items.length < 8) (event : DeferredEvent) :
    ∀ (gap : Nat) (p : BspPreemption), gap ≤ items.length → Slots.Opened items gap p.events →
      ∃ place events, place ≤ gap ∧
        (makeRoom event gap).run p = (.ok place, p.setEvents events) ∧
        Slots.Opened items place events ∧
        (∀ index other, place ≤ index → index < gap → items[index]? = some other → event.dueTick < other.dueTick) ∧
        (place = 0 ∨ ∃ other, items[place - 1]? = some other ∧ other.dueTick ≤ event.dueTick)
  | 0, p, _, opened => ⟨0, p.events, Nat.le_refl _, rfl, opened, fun _ _ _ none => by omega, .inl rfl⟩
  | gap + 1, p, inside, opened => by
      have here : items[gap]? = some items[gap] := List.getElem?_eq_getElem inside
      have cell : p.events.get gap = some items[gap] := by
        rw [opened.cells, if_pos (by omega), here]
      unfold makeRoom
      simp only [Op.run_bind, Op.run_read, Op.run_lift, cell, orError_some]
      split
      · rename_i early
        exact ⟨gap + 1, p.events, Nat.le_refl _, rfl, opened, fun _ _ _ none => by omega,
          .inr ⟨items[gap], here, early⟩⟩
      · rename_i late
        simp only [Op.run_bind, Op.run_update]
        obtain ⟨place, events, low, ran, kept, later, stop⟩ := makeRoom_run room event gap
          (p.putEvent (gap + 1) items[gap]) (by omega) (opened.shift room inside here)
        refine ⟨place, events, by omega, ran, kept, fun index other after before found => ?_, stop⟩
        by_cases last : index = gap
        · subst last
          rw [here] at found
          rw [← Option.some.inj found]
          omega
        · exact later index other after (by omega) found

end Insertion

/-- Queueing fails with the lane as it was, or adds the event behind those due no later. -/
theorem queueEvent_cases (sound : Sound p items) (event : DeferredEvent) :
    (∃ reason, (queueEvent event).run p = (.error reason, p)) ∨
      ∃ queue, (queueEvent event).run p = (.ok (), p.setEvents (Slots.ofList queue)) ∧
        Sound (p.setEvents (Slots.ofList queue)) queue ∧ event ∉ items ∧
        ∀ time, Agenda.dueAt DeferredEvent.dueTick time queue =
          Agenda.dueAt DeferredEvent.dueTick time (items ++ [event]) := by
  unfold queueEvent
  rw [Op.run_bind_ok _ (Op.run_read p)]
  by_cases late : p.timerTicks < event.dueTick
  swap
  · exact .inl ⟨_, Op.run_bind_error _ (Op.run_ensure_stop _ late)⟩
  rw [Op.run_bind_ok _ (Op.run_ensure_pass _ late)]
  by_cases full : p.events.len ≠ maxDeferredEvents
  swap
  · exact .inl ⟨_, Op.run_bind_error _ (Op.run_ensure_stop _ full)⟩
  rw [Op.run_bind_ok _ (Op.run_ensure_pass _ full)]
  by_cases fresh : p.events.position event = none
  swap
  · exact .inl ⟨_, Op.run_bind_error _ (Op.run_ensure_stop _ fresh)⟩
  rw [Op.run_bind_ok _ (Op.run_ensure_pass _ fresh)]
  have room : items.length < 8 := by
    have := sound.fits
    rw [sound.len] at full
    unfold maxDeferredEvents at full
    omega
  have absent : event ∉ items := by
    rw [sound.events] at fresh
    exact (Slots.position_ofList_none sound.fits).mp fresh
  obtain ⟨place, events, low, ran, opened, later, stop⟩ := makeRoom_run room event items.length p
    (Nat.le_refl _) (sound.events ▸ Slots.opened_ofList sound.fits)
  have stops : Slots.Stops DeferredEvent.dueTick items event place := by
    refine ⟨low, fun index other after found => later index other after ?_ found, stop⟩
    exact (List.getElem?_eq_some_iff.mp found).1
  have early := stops.early sound.ordered
  have behind := stops.behind
  have split : items.insertIdx place event = items.take place ++ event :: items.drop place :=
    Agenda.insertIdx_eq_append event low
  have grown := List.length_insertIdx_of_le_length low event
  have kept : Sound (p.setEvents (Slots.ofList (items.insertIdx place event)))
      (items.insertIdx place event) := by
    refine ⟨sound.quantum, sound.positive, sound.within, rfl, by omega, fun other member => ?_, ?_,
      sound.scheduler⟩
    · rcases (List.mem_insertIdx low).mp member with rfl | old
      · exact late
      · exact sound.future other old
    · rw [split]
      exact Agenda.Ordered.insert (by rw [List.take_append_drop]; exact sound.ordered) early behind
  refine .inr ⟨items.insertIdx place event, ?_, kept, absent, fun time => ?_⟩
  · have accepted := kept.validate
    rw [← opened.filled room low event] at accepted ⊢
    rw [sound.len, Op.run_bind_ok _ ran, Op.run_bind_ok _ (Op.run_update _ _), Op.run_bind_ok _ (Op.run_update _ _)]
    unfold check
    rw [Op.run_bind_ok _ (Op.run_read _), Op.run_lift]
    exact congrArg (fun result => (result, _)) accepted
  · rw [split, Agenda.dueAt_insert behind, List.take_append_drop]

end

/-- The scheduler call of one event. -/
def DeferredEventKind.apply (cpu : CpuId) : DeferredEventKind → Sched.M Unit
  | .signal id => Sched.signalWait id cpu
  | .cancel id => Sched.cancelWait id cpu
  | .timeout id => Sched.timeoutWait id cpu
  | .blockCurrent => do
      let _ ← Sched.blockCurrent cpu

/-- The scheduler calls of a list of events, in list order. -/
def applyAll (cpu : CpuId) (due : List DeferredEvent) : Sched.M Unit :=
  Op.forEach due fun event => event.kind.apply cpu

/-- The scheduler calls that change the running task. -/
def switchTask (cpu : CpuId) : Sched.M TaskId := do
  let running ← currentTask cpu
  Op.when (running ≠ none) do
    let _ ← Sched.yieldCurrent cpu
  Sched.dispatch cpu

/-- The part of the lane that the events of a tick do not touch. -/
structure Framed (p p' : BspPreemption) : Prop where
  cpu : p'.cpu = p.cpu
  quantumTicks : p'.quantumTicks = p.quantumTicks
  timerTicks : p'.timerTicks = p.timerTicks

/-- The same for one event, which leaves the queue alone too. -/
structure Applied (p p' : BspPreemption) : Prop extends Framed p p' where
  events : p'.events = p.events
  processed : p'.eventsProcessed = p.eventsProcessed

theorem Framed.refl (p : BspPreemption) : Framed p p := ⟨rfl, rfl, rfl⟩

variable {p p' : BspPreemption} {items : List DeferredEvent}

section Parts

theorem core_eq_ok {α : Type} {method : Sched.M α} {value : α} : (core method).run p = (.ok value, p') ↔
      ∃ s, method.run p.scheduler = (.ok value, s) ∧ p.setScheduler s = p' := by
  simp only [core, Op.run_within_eq_ok, Op.run_mapError_eq_ok]

theorem count_eq_ok {get : BspPreemption → Nat} {set : Nat → BspPreemption → BspPreemption} {done : Unit}
    : (count get set).run p = (.ok done, p') ↔ get p + 1 < Sched.u32Values ∧ set (get p + 1) p = p' := by
  simp only [count, run_bind_eq_ok, run_read_eq_ok, run_lift_eq_ok, Op.run_update_eq_ok,
    orError_eq_ok, checkedAdd_eq_some]
  constructor
  · rintro ⟨_, _, ⟨rfl, rfl⟩, _, _, ⟨⟨room, rfl⟩, rfl⟩, rfl⟩
    exact ⟨room, rfl⟩
  · rintro ⟨room, rfl⟩
    exact ⟨_, _, ⟨rfl, rfl⟩, _, _, ⟨⟨room, rfl⟩, rfl⟩, rfl⟩

theorem check_eq_ok {done : Unit} : check.run p = (.ok done, p') ↔ p.validate = .ok () ∧ p = p' := by
  simp only [check, run_bind_eq_ok, run_read_eq_ok, run_lift_eq_ok]
  constructor
  · rintro ⟨_, _, ⟨rfl, rfl⟩, accepted, rfl⟩
    exact ⟨accepted, rfl⟩
  · rintro ⟨accepted, rfl⟩
    exact ⟨_, _, ⟨rfl, rfl⟩, accepted, rfl⟩

theorem currentTask_eq_ok {cpu : CpuId} {s s' : Sched.Scheduler} {running : Option TaskId}
    (ok : (currentTask cpu).run s = (.ok running, s')) : s = s' := by
  simp only [currentTask, Sched.online, run_bind_eq_ok, run_read_eq_ok, run_lift_eq_ok,
    run_pure_eq_ok] at ok
  obtain ⟨_, _, ⟨_, _, ⟨rfl, rfl⟩, -, rfl⟩, _, _, ⟨rfl, rfl⟩, -, rfl⟩ := ok
  rfl

theorem taskPriority_eq_ok {id : TaskId} {s s' : Sched.Scheduler} {priority : Nat}
    (ok : (taskPriority id).run s = (.ok priority, s')) : s = s' := by
  simp only [taskPriority, Sched.index, run_bind_eq_ok, run_read_eq_ok, run_lift_eq_ok,
    run_pure_eq_ok] at ok
  obtain ⟨_, _, ⟨_, _, ⟨rfl, rfl⟩, -, rfl⟩, _, _, ⟨rfl, rfl⟩, -, rfl⟩ := ok
  rfl

end Parts

section Events

variable {priority : Nat}

theorem wakeEvent_ok {wake : TaskId → CpuId → Sched.M Unit} {countKind : M Unit} {id : TaskId}
    {cause cause' : RescheduleCause}
    (counts : ∀ p p', countKind.run p = (.ok (), p') → Applied p p' ∧ p'.scheduler = p.scheduler)
    (ok : (wakeEvent wake countKind id priority cause).run p = (.ok cause', p')) :
    Applied p p' ∧ (wake id p.cpu).run p.scheduler = (.ok (), p'.scheduler) := by
  simp only [wakeEvent, run_bind_eq_ok, run_read_eq_ok, core_eq_ok, run_pure_eq_ok] at ok
  obtain ⟨_, _, ⟨rfl, rfl⟩, _, _, ⟨s, woke, rfl⟩, _, p₁, counted, _, _, ⟨s', looked, rfl⟩, -, rfl⟩ := ok
  obtain ⟨applied, same⟩ := counts _ _ counted
  obtain rfl := taskPriority_eq_ok looked
  exact ⟨⟨⟨applied.cpu, applied.quantumTicks, applied.timerTicks⟩, applied.events, applied.processed⟩,
    woke.trans (congrArg _ same.symm)⟩

theorem applyEvent_ok {cause cause' : RescheduleCause} {kind : DeferredEventKind}
    (ok : (applyEvent priority cause kind).run p = (.ok cause', p')) :
    Applied p p' ∧ (kind.apply p.cpu).run p.scheduler = (.ok (), p'.scheduler) := by
  have counts : ∀ (get : BspPreemption → Nat) (set : Nat → BspPreemption → BspPreemption),
      (∀ value p, Applied p (set value p) ∧ (set value p).scheduler = p.scheduler) →
      ∀ p p', (count get set).run p = (.ok (), p') → Applied p p' ∧ p'.scheduler = p.scheduler := by
    intro get set frame p p' counted
    obtain ⟨-, rfl⟩ := count_eq_ok.mp counted
    exact frame _ p
  cases kind with
  | signal id =>
    refine @wakeEvent_ok _ _ _ Sched.signalWait countSignal _ _ _ ?_ ok
    exact counts _ _ fun _ _ => ⟨⟨⟨rfl, rfl, rfl⟩, rfl, rfl⟩, rfl⟩
  | cancel id =>
    refine @wakeEvent_ok _ _ _ Sched.cancelWait countCancel _ _ _ ?_ ok
    exact counts _ _ fun _ _ => ⟨⟨⟨rfl, rfl, rfl⟩, rfl, rfl⟩, rfl⟩
  | timeout id =>
    refine @wakeEvent_ok _ _ _ Sched.timeoutWait countTimeout _ _ _ ?_ ok
    exact counts _ _ fun _ _ => ⟨⟨⟨rfl, rfl, rfl⟩, rfl, rfl⟩, rfl⟩
  | blockCurrent =>
    simp only [applyEvent, countBlock, run_bind_eq_ok, run_read_eq_ok, core_eq_ok,
      count_eq_ok, run_pure_eq_ok] at ok
    obtain ⟨_, _, ⟨rfl, rfl⟩, id, _, ⟨s, blocked, rfl⟩, _, _, ⟨-, rfl⟩, -, rfl⟩ := ok
    exact ⟨⟨⟨rfl, rfl, rfl⟩, rfl, rfl⟩, run_bind_ok _ blocked⟩

theorem removeFirstEvent_ok {event : DeferredEvent} {rest : List DeferredEvent} {done : Unit}
    (events : p.events = Slots.ofList (event :: rest)) (fits : (event :: rest).length ≤ 8)
    (ok : removeFirstEvent.run p = (.ok done, p')) : p.setEvents (Slots.ofList rest) = p' := by
  simp only [removeFirstEvent, run_bind_eq_ok, run_read_eq_ok, Op.run_ensure_eq_ok, Op.run_update_eq_ok] at ok
  obtain ⟨_, _, ⟨rfl, rfl⟩, _, _, ⟨-, rfl⟩, rfl⟩ := ok
  have closed : (Slots.ofList (event :: rest) : Slots DeferredEvent 8).closeGap 0 = Slots.ofList rest :=
    Slots.closeGap_ofList fits (Nat.succ_pos _)
  rw [events, closed]

/-- What the event loop has done when it returns: the events due are off the queue, counted, and
applied to the scheduler in queue order. The induction is on the queue, whose length is also the
bound on the turns. -/
theorem drain_ok : ∀ {items : List DeferredEvent} {p : BspPreemption}
    {cause : RescheduleCause} {processed : Nat} {result : RescheduleCause × Nat},
    p.events = Slots.ofList items → items.length ≤ 8 →
      (drain priority items.length cause processed).run p = (.ok result, p') →
      Framed p p' ∧ p'.events = Slots.ofList (items.dropWhile (·.dueTick ≤ p.timerTicks)) ∧
        result.2 = processed + (items.takeWhile (·.dueTick ≤ p.timerTicks)).length ∧
        p'.eventsProcessed =
          p.eventsProcessed + (items.takeWhile (·.dueTick ≤ p.timerTicks)).length ∧
        (applyAll p.cpu (items.takeWhile (·.dueTick ≤ p.timerTicks))).run p.scheduler =
          (.ok (), p'.scheduler)
  | [], p, cause, processed, result, events, fits, ok => by
      obtain ⟨rfl, rfl⟩ := Op.run_pure_eq_ok.mp ok
      exact ⟨.refl _, events, rfl, rfl, rfl⟩
  | event :: rest, p, cause, processed, result, events, fits, ok => by
      have head : p.events.get 0 = some event := by
        rw [events, Slots.get_ofList fits]
        rfl
      have busy : ¬ p.events.len = 0 := by
        rw [events, Slots.ofList_len]
        exact Nat.succ_ne_zero _
      rw [List.length_cons, drain, run_bind_ok _ (Op.run_read p), if_neg busy, head, orError_some,
        run_bind_ok _ (run_lift _ _)] at ok
      by_cases late : p.timerTicks < event.dueTick
      · rw [if_pos late] at ok
        obtain ⟨rfl, rfl⟩ := Op.run_pure_eq_ok.mp ok
        have stay : ¬ event.dueTick ≤ p.timerTicks := by omega
        rw [List.takeWhile_cons_of_neg (by simpa using stay),
          List.dropWhile_cons_of_neg (by simpa using stay)]
        exact ⟨.refl _, events, rfl, rfl, rfl⟩
      · rw [if_neg late] at ok
        simp only [run_bind_eq_ok, run_lift_eq_ok, orError_eq_ok, checkedAdd_eq_some] at ok
        obtain ⟨_, p₁, removed, _, _, ⟨⟨-, rfl⟩, rfl⟩, _, _, counted, cause', p₂, applied, ok⟩ := ok
        obtain rfl := removeFirstEvent_ok events fits removed
        obtain ⟨-, rfl⟩ := count_eq_ok.mp counted
        obtain ⟨frame, called⟩ := applyEvent_ok applied
        have due : event.dueTick ≤ p.timerTicks := by omega
        have ticks : p₂.timerTicks = p.timerTicks := frame.timerTicks
        have cpu : p₂.cpu = p.cpu := frame.cpu
        have counts : p₂.eventsProcessed = p.eventsProcessed + 1 := frame.processed
        obtain ⟨later, queue, total, sum, calls⟩ := drain_ok (frame.events.trans rfl)
          (Nat.le_of_succ_le fits) ok
        rw [ticks] at queue total sum calls
        rw [List.takeWhile_cons_of_pos (by simpa using due),
          List.dropWhile_cons_of_pos (by simpa using due), List.length_cons]
        refine ⟨⟨later.cpu.trans cpu, later.quantumTicks.trans frame.quantumTicks,
          later.timerTicks.trans ticks⟩, queue, by omega, by omega, ?_⟩
        have first : (event.kind.apply p.cpu).run p.scheduler = (.ok (), p₂.scheduler) := called
        rw [cpu] at calls
        rw [applyAll, Op.forEach, run_bind_ok _ first]
        exact calls

end Events

section Tails

theorem countReschedule_ok {cause : RescheduleCause} {done : Unit}
    (ok : (countReschedule cause).run p = (.ok done, p')) :
    Applied p p' ∧ p'.scheduler = p.scheduler := by
  cases cause with
  | none =>
    obtain ⟨-, rfl⟩ := Op.run_pure_eq_ok.mp ok
    exact ⟨⟨.refl _, rfl, rfl⟩, rfl⟩
  | quantumExpired =>
    obtain ⟨-, rfl⟩ := count_eq_ok.mp ok
    exact ⟨⟨⟨rfl, rfl, rfl⟩, rfl, rfl⟩, rfl⟩
  | higherPriorityWake =>
    obtain ⟨-, rfl⟩ := count_eq_ok.mp ok
    exact ⟨⟨⟨rfl, rfl, rfl⟩, rfl, rfl⟩, rfl⟩
  | currentBlocked =>
    obtain ⟨-, rfl⟩ := count_eq_ok.mp ok
    exact ⟨⟨⟨rfl, rfl, rfl⟩, rfl, rfl⟩, rfl⟩

theorem countSwitch_ok {condition : Prop} [Decidable condition] {done : Unit}
    (ok : (Op.when condition countSwitch).run p = (.ok done, p')) : Applied p p' ∧ p'.scheduler = p.scheduler := by
  unfold Op.when at ok
  split at ok
  · obtain ⟨-, rfl⟩ := count_eq_ok.mp ok
    exact ⟨⟨⟨rfl, rfl, rfl⟩, rfl, rfl⟩, rfl⟩
  · obtain ⟨-, rfl⟩ := Op.run_pure_eq_ok.mp ok
    exact ⟨⟨.refl _, rfl, rfl⟩, rfl⟩

theorem reschedule_ok {previous : TaskId} {cause : RescheduleCause} {processed : Nat} {outcome : InterruptOutcome}
    (ok : (reschedule previous cause processed).run p = (.ok outcome, p')) :
    Applied p p' ∧ p'.validate = .ok () ∧ outcome.tick = p'.timerTicks ∧ outcome.cause = cause ∧
      outcome.eventsProcessed = processed ∧ (switchTask p.cpu).run p.scheduler = (.ok outcome.next, p'.scheduler) := by
  simp only [reschedule, run_bind_eq_ok, run_read_eq_ok, core_eq_ok, Op.run_update_eq_ok,
    check_eq_ok, run_pure_eq_ok] at ok
  obtain ⟨_, _, ⟨rfl, rfl⟩, running, _, ⟨s, looked, rfl⟩, _, p₁, yielded, next, _, ⟨s₂, dispatched, rfl⟩,
    _, _, rfl, _, p₂, counted, _, p₃, switched, _, _, ⟨accepted, rfl⟩, _, _, ⟨rfl, rfl⟩, rfl, rfl⟩ := ok
  obtain rfl := currentTask_eq_ok looked
  obtain ⟨first, same⟩ := countReschedule_ok counted
  obtain ⟨second, same'⟩ := countSwitch_ok switched
  have before : Applied p p₁ ∧ (Op.when (running ≠ none) do
      let _ ← Sched.yieldCurrent p.cpu).run p.scheduler = (.ok (), p₁.scheduler) := by
    unfold Op.when at yielded ⊢
    split at yielded
    · rename_i busy
      rw [if_pos busy]
      simp only [run_bind_eq_ok, core_eq_ok, run_pure_eq_ok] at yielded
      obtain ⟨id, _, ⟨s₁, yielded, rfl⟩, -, rfl⟩ := yielded
      exact ⟨⟨⟨rfl, rfl, rfl⟩, rfl, rfl⟩, run_bind_ok _ yielded⟩
    · rename_i idle
      rw [if_neg idle]
      obtain ⟨-, rfl⟩ := Op.run_pure_eq_ok.mp yielded
      exact ⟨⟨⟨rfl, rfl, rfl⟩, rfl, rfl⟩, rfl⟩
  refine ⟨⟨⟨second.cpu.trans (first.cpu.trans before.1.cpu),
    second.quantumTicks.trans (first.quantumTicks.trans before.1.quantumTicks),
    second.timerTicks.trans (first.timerTicks.trans before.1.timerTicks)⟩,
    second.events.trans (first.events.trans before.1.events),
    second.processed.trans (first.processed.trans before.1.processed)⟩, accepted, rfl, rfl, rfl, ?_⟩
  rw [same', same, switchTask, run_bind_ok _ looked, run_bind_ok _ before.2]
  exact dispatched

theorem resume_ok {previous : TaskId} {processed : Nat} {outcome : InterruptOutcome}
    (ok : (resume previous processed).run p = (.ok outcome, p')) :
    p = p' ∧ p.validate = .ok () ∧ outcome.tick = p.timerTicks ∧ outcome.cause = .none ∧
      outcome.eventsProcessed = processed := by
  simp only [resume, run_bind_eq_ok, run_read_eq_ok, check_eq_ok, run_pure_eq_ok] at ok
  obtain ⟨_, _, ⟨accepted, rfl⟩, _, _, ⟨rfl, rfl⟩, rfl, rfl⟩ := ok
  exact ⟨rfl, accepted, rfl, rfl, rfl⟩

end Tails

/-- What a tick does to the scheduler when it returns: the accounting, the events in list order,
and the switch unless there was no cause for one. -/
def Worked (p p' : BspPreemption) (due : List DeferredEvent) (outcome : InterruptOutcome) : Prop :=
  ∃ accounted applied, (Sched.accountTick p.cpu 1).run p.scheduler = (.ok (), accounted) ∧
    (applyAll p.cpu due).run accounted = (.ok (), applied) ∧
    ((outcome.cause = .none ∧ p'.scheduler = applied) ∨ (outcome.cause ≠ .none ∧
        (switchTask p.cpu).run applied = (.ok outcome.next, p'.scheduler)))

theorem handleTimerInner_ok (sound : Sound p items) {outcome : InterruptOutcome}
    (ok : handleTimerInner.run p = (.ok outcome, p')) :
    Sound p' (items.filter (·.dueTick ≠ p.timerTicks + 1)) ∧ p'.timerTicks = p.timerTicks + 1 ∧
      outcome.tick = p.timerTicks + 1 ∧ p'.eventsProcessed = p.eventsProcessed +
        (Agenda.dueAt DeferredEvent.dueTick (p.timerTicks + 1) items).length ∧
      outcome.eventsProcessed = (Agenda.dueAt DeferredEvent.dueTick (p.timerTicks + 1) items).length ∧
      Worked p p' (Agenda.dueAt DeferredEvent.dueTick (p.timerTicks + 1) items) outcome := by
  simp only [handleTimerInner, run_bind_eq_ok, run_read_eq_ok, core_eq_ok, run_lift_eq_ok,
    orError_eq_ok, checkedAdd_eq_some, Op.run_update_eq_ok, Op.run_ensure_eq_ok] at ok
  obtain ⟨_, _, ⟨rfl, rfl⟩, running, _, ⟨s, looked, rfl⟩, previous, _, ⟨rfl, rfl⟩, priority, _,
    ⟨s', ranked, rfl⟩, _, _, ⟨rfl, rfl⟩, _, _, ⟨⟨room, rfl⟩, rfl⟩, _, _, rfl, _, _, ⟨accounted, ticked, rfl⟩,
    _, _, ⟨rfl, rfl⟩, _, _, ⟨left, rfl⟩, _, _, rfl, _, _, ⟨rfl, rfl⟩, ⟨cause, processed⟩, p₁, drained, _, _,
    ⟨rfl, rfl⟩, ok⟩ := ok
  obtain rfl := currentTask_eq_ok looked
  obtain rfl := taskPriority_eq_ok ranked
  change (drain priority p.events.len .none 0).run
    ((setScheduler accounted (p.setTicks (p.timerTicks + 1))).setQuantum (p.quantumRemaining - 1)) =
      (.ok (cause, processed), p₁) at drained
  rw [sound.len] at drained
  obtain ⟨frame, events, total, sum, calls⟩ := drain_ok (by exact sound.events) sound.fits drained
  obtain ⟨taken, dropped⟩ := Agenda.Ordered.takeWhile sound.ordered sound.future
  change p₁.events = Slots.ofList (items.dropWhile (·.dueTick ≤ p.timerTicks + 1)) at events
  change processed = 0 + (items.takeWhile (·.dueTick ≤ p.timerTicks + 1)).length at total
  change p₁.eventsProcessed =
    p.eventsProcessed + (items.takeWhile (·.dueTick ≤ p.timerTicks + 1)).length at sum
  change (applyAll p.cpu (items.takeWhile (·.dueTick ≤ p.timerTicks + 1))).run accounted =
    (.ok (), p₁.scheduler) at calls
  have ticks : p₁.timerTicks = p.timerTicks + 1 := frame.timerTicks
  have cpu : p₁.cpu = p.cpu := frame.cpu
  rw [dropped] at events
  rw [taken] at total sum calls
  -- Whichever tail runs leaves the queue and the clock alone and validates the lane.
  have tail : Applied p₁ p' ∧ p'.validate = .ok () ∧ outcome.tick = p'.timerTicks ∧
      outcome.eventsProcessed = processed ∧
      ((outcome.cause = .none ∧ p'.scheduler = p₁.scheduler) ∨ (outcome.cause ≠ .none ∧
        (switchTask p.cpu).run p₁.scheduler = (.ok outcome.next, p'.scheduler))) := by
    generalize (if (cause, processed).1 = .none ∧ p₁.quantumRemaining = 0 then
      RescheduleCause.quantumExpired else (cause, processed).1) = final at ok
    split at ok
    · rename_i pending
      obtain ⟨applied, accepted, tick, kind, counted, switched⟩ := reschedule_ok ok
      rw [cpu] at switched
      exact ⟨applied, accepted, tick, counted, .inr ⟨kind ▸ pending, switched⟩⟩
    · obtain ⟨rfl, accepted, tick, kind, counted⟩ := resume_ok ok
      exact ⟨⟨.refl _, rfl, rfl⟩, accepted, tick, counted, .inl ⟨kind, rfl⟩⟩
  obtain ⟨applied, accepted, tick, counted, switched⟩ := tail
  have clock : p'.timerTicks = p.timerTicks + 1 := applied.timerTicks.trans ticks
  obtain ⟨queue, sound'⟩ := sound_of_validate accepted
  have fits : (items.filter (·.dueTick ≠ p.timerTicks + 1)).length ≤ 8 :=
    Nat.le_trans (List.length_filter_le ..) sound.fits
  have same : queue = items.filter (·.dueTick ≠ p.timerTicks + 1) := by
    rw [← Slots.live_ofList sound'.fits, ← sound'.events, applied.events, events, Slots.live_ofList fits]
  refine ⟨same ▸ sound', clock, tick.trans clock, ?_, ?_, accounted, p₁.scheduler, ticked, calls, switched⟩
  · rw [applied.processed, sum]
  · rw [counted, total, Nat.zero_add]

variable {frame : InterruptFrameContract}

/-- A tick that fails while its rollback counter has room changes nothing but that counter. -/
theorem handleTimer_rolls_back {inner : Error} (valid : validateInterruptFrame frame = .ok ())
    (room : p.rollbackCount + 1 < Sched.u32Values) (failed : handleTimerInner.run p = (.error inner, p')) :
    (handleTimer frame).run p = (.error inner, { p with rollbackCount := p.rollbackCount + 1 }) := by
  have counter : checkedAdd Sched.u32Values p.rollbackCount 1 = some (p.rollbackCount + 1) :=
    checkedAdd_eq_some.mpr ⟨room, rfl⟩
  unfold handleTimer
  rw [valid, run_bind_ok _ (run_lift p _), run_bind_ok _ (Op.run_read p), counter,
    Op.run_onError_error _ failed]
  rfl

theorem handleTimer_error {reason : Error} (room : p.rollbackCount + 1 < Sched.u32Values)
    (failed : (handleTimer frame).run p = (.error reason, p')) : p' = { p with rollbackCount := p'.rollbackCount } := by
  cases checked : validateInterruptFrame frame with
  | error early =>
    unfold handleTimer at failed
    rw [checked, Op.run_bind_error _ (run_lift p _)] at failed
    obtain ⟨-, rfl⟩ := Prod.mk.inj failed
    rfl
  | ok done =>
    cases ran : handleTimerInner.run p with
    | mk result p₁ =>
      cases result with
      | ok outcome =>
        unfold handleTimer at failed
        rw [checked, run_bind_ok _ (run_lift p _), run_bind_ok _ (Op.run_read p),
          Op.run_onError_ok _ ran] at failed
        cases failed
      | error inner =>
        rw [handleTimer_rolls_back checked room ran] at failed
        obtain ⟨-, rfl⟩ := Prod.mk.inj failed
        rfl

theorem handleTimer_ok {outcome : InterruptOutcome} (ok : (handleTimer frame).run p = (.ok outcome, p')) :
    handleTimerInner.run p = (.ok outcome, p') := by
  unfold handleTimer at ok
  simp only [run_bind_eq_ok, run_lift_eq_ok, run_read_eq_ok] at ok
  obtain ⟨_, _, ⟨-, rfl⟩, _, _, ⟨rfl, rfl⟩, ok⟩ := ok
  cases ran : handleTimerInner.run p with
  | mk result p₁ =>
    cases result with
    | ok value =>
      rw [Op.run_onError_ok _ ran] at ok
      exact ok
    | error inner =>
      rw [Op.run_onError_error _ ran] at ok
      simp only [run_bind_eq_ok, Op.run_fail, Prod.mk.injEq, reduceCtorEq, false_and, and_false, exists_false] at ok

end PooleOS.Preempt
