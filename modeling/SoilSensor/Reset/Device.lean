import SoilSensor.App.Accounts
import SoilSensor.Reset.Save
/-!
# From the button to the reset

The two threads of a factory reset side by side. The application task
asks the server for a reset; some time later the server answers the call
with a `kFactoryReset` event in the platform's queue; and the event loop,
when it comes to the event, wipes the stack and resets the device. Nobody
else puts that event, and nothing is said of when anything happens.

`reset_provoked` is what is safe in this: no interleaving resets a device
whose button was not pressed, and held over two expiries of its timer.
`reset_in_turn` is what is live: an event that is in the queue is not
overtaken, whatever other threads put and however the wipe goes.
-/

namespace SoilSensor

open EventLoop

variable {σ : Type*}

/-- **The device**: the application task, the event loop, and how many calls
of `ScheduleFactoryReset` the server has answered. -/
structure Device where
  app : AppState
  loop : EventLoop
  answered : ℕ

namespace Device

/-- The steps of the device. -/
inductive Step (σ : Type*)
  /-- A step of the application, its interrupts included. -/
  | app (a : AppTask.Step)
  /-- The server puts the event for one of the calls. -/
  | answer
  /-- Another thread puts an item, or the event loop handles one. -/
  | loop (a : EventLoop.Step σ)

/-- The item the server puts. -/
def resetItem : Item := .event .kFactoryReset

/-- Items of other threads are not the server's. -/
def fromOthers : EventLoop.Step σ → Bool
  | .put item => item ≠ resetItem
  | .process _ _ => true

/-- **What a step does**; the reset ends both threads. -/
def step (cfg : Config) (p : Stack σ) (d : Device) : Step σ → Option Device
  | .app a =>
    if d.loop.reset then none
    else (AppTask.step cfg d.app a).map fun app => { d with app := app }
  | .answer =>
    if d.loop.reset ∨ d.app.scheduledResets ≤ d.answered then none
    else some { d with loop := put resetItem d.loop, answered := d.answered + 1 }
  | .loop a =>
    if fromOthers a then (EventLoop.step p d.loop a).map fun loop => { d with loop := loop }
    else none

/-- The step of the application, where it is one. -/
def Step.app? : Step σ → Option AppTask.Step
  | .app a => some a
  | _ => none

end Device

/-- **The machine of the device**, from the end of `AppTask::Init` and over
a queue that holds `items`. -/
def device (cfg : Config) (p : Stack σ) (items : List Item) : Machine Device (Device.Step σ) where
  init := ⟨(appTask cfg).init, (eventLoop p items).init, 0⟩
  step := Device.step cfg p

namespace Device

variable {cfg : Config} {p : Stack σ} {items : List Item} {d d' : Device} {a : Step σ}

/-! ## What a step can be -/

/-- **The steps**, with what each asks and what it leaves. -/
theorem step_cases (h : step cfg p d a = some d') :
    (∃ b app, a = .app b ∧ AppTask.step cfg d.app b = some app ∧ d' = { d with app := app }) ∨
    (a = .answer ∧ d.answered < d.app.scheduledResets ∧
      d' = { d with loop := put resetItem d.loop, answered := d.answered + 1 }) ∨
    ∃ b loop, a = .loop b ∧ fromOthers b ∧ EventLoop.step p d.loop b = some loop ∧
      d' = { d with loop := loop } := by
  cases a with
  | app b =>
    simp only [step] at h
    split_ifs at h
    obtain ⟨app, happ, rfl⟩ := Option.map_eq_some_iff.1 h
    exact Or.inl ⟨b, app, rfl, happ, rfl⟩
  | answer =>
    simp only [step] at h
    split_ifs at h with hblocked
    obtain ⟨-, hlt⟩ := not_or.1 hblocked
    exact Or.inr (Or.inl ⟨rfl, Nat.lt_of_not_le hlt, (Option.some.inj h).symm⟩)
  | loop b =>
    simp only [step] at h
    split_ifs at h with hothers
    obtain ⟨loop, hloop, rfl⟩ := Option.map_eq_some_iff.1 h
    exact Or.inr (Or.inr ⟨b, loop, rfl, hothers, hloop, rfl⟩)

/-- **The application is one of its parts.** -/
theorem run_app {m : Device} {tr : List (Transition Device (Step σ))}
    (r : ((device cfg p items).startAt m).Run tr d) : ((appTask cfg).startAt m.app).Run
      (tr.filterMap (Machine.projected Device.app Step.app?)) d.app := by
  refine r.project rfl fun h => ?_
  rcases step_cases h with ⟨b, app, rfl, happ, rfl⟩ | ⟨rfl, -, rfl⟩ | ⟨b, loop, rfl, -, -, rfl⟩
  · exact happ
  · rfl
  · rfl

end Device

/-! ## The steps of the loop -/

namespace EventLoop

variable {l l' : EventLoop} {p : Stack σ} {a : EventLoop.Step σ} {item : Item}

/-- After the reset there are none. -/
theorem not_reset_of_step (h : EventLoop.step p l a = some l') : ¬ l.reset := by
  intro hr
  cases a <;> simp [EventLoop.step, hr] at h

theorem of_step_put (h : EventLoop.step p l (.put item) = some l') : l' = EventLoop.put item l := by
  simp only [EventLoop.step] at h
  split_ifs at h
  exact (Option.some.inj h).symm

theorem sequential_init (p : Stack σ) (items : List Item) : Sequential (eventLoop p items).init :=
  ⟨fun h => absurd h Bool.false_ne_true, fun _ hn => absurd hn List.not_mem_nil⟩

/-- What is put comes behind what is there. -/
theorem items_put : (EventLoop.put item l).queue.entries.map Prod.snd =
    l.queue.entries.map Prod.snd ++ [item] := by
  simp [put, TicketQueue.put]

end EventLoop

namespace Device

variable {cfg : Config} {p : Stack σ} {items : List Item} {d d' : Device} {a : Step σ}

/-! ## Safety -/

/-- A reset that is waiting, or was reached, was asked for. -/
def Provoked (d : Device) : Prop :=
  d.answered ≤ d.app.scheduledResets ∧
    (d.loop.reset ∨ resetItem ∈ d.loop.queue.entries.map Prod.snd → 0 < d.answered)

/-- A step of the loop alone puts no `kFactoryReset` into the queue ahead of
the reset, and reaches the reset only over one that was in it. -/
theorem reset_of_loop_step {l l' : EventLoop} {b : EventLoop.Step σ} (hb : fromOthers b)
    (h : EventLoop.step p l b = some l')
    (h' : l'.reset ∨ resetItem ∈ l'.queue.entries.map Prod.snd) :
    resetItem ∈ l.queue.entries.map Prod.snd := by
  cases b with
  | put item =>
    have hitem : item ≠ resetItem := by simpa [fromOthers] using hb
    have hr : ¬ l.reset := not_reset_of_step h
    obtain rfl := of_step_put h
    rcases h' with hreset | hmem
    · exact absurd hreset hr
    · rw [items_put, List.mem_append, List.mem_singleton] at hmem
      exact hmem.resolve_right fun heq => hitem heq.symm
  | process world during =>
    simp only [EventLoop.step] at h
    split_ifs at h with hr
    split at h
    · exact absurd h (by simp)
    · rename_i number type queue hget
      obtain rfl := Option.some.inj h
      obtain ⟨hentries, -, -⟩ := TicketQueue.get?_eq_some hget
      rw [hentries, List.map_cons, List.mem_cons]
      by_cases ht : type = .kFactoryReset
      · exact Or.inl (by rw [ht, resetItem])
      · rw [factoryResetEventHandler_of_ne ht] at h'
        exact Or.inr (h'.resolve_left hr)
    · rename_i number closure queue hget
      obtain rfl := Option.some.inj h
      obtain ⟨hentries, -, -⟩ := TicketQueue.get?_eq_some hget
      rw [hentries, List.map_cons, List.mem_cons]
      exact Or.inr (h'.resolve_left hr)

/-- The application never takes a call of `ScheduleFactoryReset` back. -/
theorem scheduledResets_mono {s s' : AppState} {b : AppTask.Step}
    (h : AppTask.step cfg s b = some s') : s.scheduledResets ≤ s'.scheduledResets :=
  Hold.resets_le_step (Hold.hold_step h)

/-- **No step resets a device that was not asked to.** -/
theorem Provoked.step (hd : Provoked d) (h : Device.step cfg p d a = some d') : Provoked d' := by
  obtain ⟨hle, hpos⟩ := hd
  rcases step_cases h with ⟨b, app, -, happ, rfl⟩ | ⟨-, hlt, rfl⟩ | ⟨b, loop, -, hb, hloop, rfl⟩
  · exact ⟨hle.trans (scheduledResets_mono happ), hpos⟩
  · exact ⟨hlt, fun _ => Nat.succ_pos _⟩
  · exact ⟨hle, fun h' => hpos (Or.inr (reset_of_loop_step hb hloop h'))⟩

/-- The step presses the button. -/
def Step.isPress (a : Step σ) : Bool := a.app?.any AppTask.Step.isPress

/-- The step is an expiry of the function timer. -/
def Step.isExpiry (a : Step σ) : Bool := a.app?.any AppTask.Step.isExpiry

end Device

open Device in
/-- **No reset comes of itself.** However the application task, the server
and the event loop interleave, and however the stack answers the wipe: where
the device is reset the application had asked for it, the button had been
pressed and the function timer had expired twice. -/
theorem reset_provoked (cfg : Config) (p : Stack σ) {items : List Item}
    (hitems : resetItem ∉ items) {tr : List (Transition Device (Device.Step σ))} {d : Device}
    (r : (device cfg p items).Run tr d) (hreset : d.loop.reset) :
    0 < d.app.scheduledResets ∧ 0 < tr.countP (fun t => t.act.isPress) ∧
      2 ≤ tr.countP fun t => t.act.isExpiry := by
  have hinit : Provoked (device cfg p items).init := by
    refine ⟨Nat.zero_le _, fun h => absurd ?_ hitems⟩
    have hentries : (device cfg p items).init.loop.queue.entries.map Prod.snd = items :=
      TicketQueue.items_putAll
    rw [hentries] at h
    exact h.resolve_left Bool.false_ne_true
  have hprovoked : Provoked d := r.invariant hinit fun hd h => hd.step h
  have hasked : 0 < d.app.scheduledResets :=
    Nat.lt_of_lt_of_le (hprovoked.2 (Or.inl hreset)) hprovoked.1
  have r' : ((device cfg p items).startAt (device cfg p items).init).Run tr d := r
  have hpress := resets_le_presses (run_app r')
  have hexpiry := resets_le_expiries (run_app r')
  rw [Machine.countP_projected] at hpress hexpiry
  refine ⟨hasked, Nat.lt_of_lt_of_le hasked hpress, ?_⟩
  have htwo : 2 ≤ 2 * d.app.scheduledResets := by omega
  exact htwo.trans hexpiry

/-- A hold kept to its end, answered by the server and handled. -/
theorem reset_provoked_by_hold : ∃ tr d,
    (device ⟨.two, true⟩ (tableStack fun _ => .noError) [.work (.other 0)]).Run tr d ∧
    d.loop.reset ∧ 0 < d.app.scheduledResets ∧ 0 < tr.countP (fun t => t.act.isPress) ∧
      2 ≤ tr.countP fun t => t.act.isExpiry := by
  obtain ⟨tr, d, r, hreset⟩ := (device ⟨.two, true⟩ (tableStack fun _ => .noError)
    [.work (.other 0)]).exists_run_of_exec
    ([.app (.buttons 1 1), .app .get, .app .dispatch, .app .functionTimer, .app .get,
      .app .dispatch, .loop (.process [⟨1, true⟩] []), .app .functionTimer, .app .get,
      .app .dispatch, .answer, .loop (.process [⟨1, true⟩] [])])
    (fun _ d => d.loop.reset) (by decide +kernel)
  exact ⟨tr, d, r, hreset, reset_provoked _ _ (by decide) r hreset⟩

/-! ## Liveness -/

namespace EventLoop

/-- The loop's thread handles an item. -/
def Step.isProcess : EventLoop.Step σ → Bool
  | .process _ _ => true
  | .put _ => false

/-- A `kFactoryReset` event waits behind `k` other items. -/
def Behind (k : ℕ) (l : EventLoop) : Prop :=
  (l.queue.entries.map Prod.snd)[k]? = some Device.resetItem

instance {k : ℕ} {l : EventLoop} : Decidable (l.Behind k) := inferInstanceAs (Decidable (_ = _))

variable {k : ℕ} {l l' : EventLoop} {p : Stack σ} {items : List Item} {item : Item}

/-- Other threads put their items behind the event. -/
theorem Behind.put (h : l.Behind k) : (EventLoop.put item l).Behind k := by
  have hlt : k < (l.queue.entries.map Prod.snd).length := (List.getElem?_eq_some_iff.1 h).1
  rw [Behind, items_put, List.getElem?_append_left hlt]
  exact h

/-- **An item handled is one less ahead of the event**, if it was not the
event itself. -/
theorem Behind.process {world : σ} {during : List Item} (hs : Sequential l)
    (hstep : EventLoop.step p l (.process world during) = some l') (h : l.Behind k) :
    l'.reset ∨ ∃ j, k = j + 1 ∧ l'.Behind j := by
  simp only [EventLoop.step] at hstep
  split_ifs at hstep with hr
  have hflag : ¬ l.sFactoryResetScheduled := fun hf => hr (hs.flag hf)
  split at hstep
  · exact absurd hstep (by simp)
  · rename_i number type queue hget
    obtain rfl := Option.some.inj hstep
    obtain ⟨hentries, -, -⟩ := TicketQueue.get?_eq_some hget
    by_cases ht : type = .kFactoryReset
    · refine Or.inl ?_
      rw [ht, factoryResetEventHandler, if_neg (not_not.2 rfl), doFactoryResetLikeNordic,
        if_neg hflag]
    · rw [factoryResetEventHandler_of_ne ht]
      refine Or.inr ?_
      rw [Behind, hentries, List.map_cons] at h
      cases k with
      | zero => exact absurd (by simpa [Device.resetItem] using h) ht
      | succ j => exact ⟨j, rfl, h⟩
  · rename_i number closure queue hget
    obtain rfl := Option.some.inj hstep
    obtain ⟨hentries, -, -⟩ := TicketQueue.get?_eq_some hget
    refine Or.inr ?_
    rw [Behind, hentries, List.map_cons] at h
    cases k with
    | zero => exact absurd h (by simp [Device.resetItem])
    | succ j => exact ⟨j, rfl, h⟩

/-- A loop with an event waiting has something to handle. -/
theorem Behind.enabled (hr : l.reset = false) (h : l.Behind k) (world : σ) (during : List Item) :
    (EventLoop.step p l (.process world during)).isSome := by
  have hne : l.queue.entries ≠ [] := by
    intro hnil
    rw [Behind, hnil] at h
    simp at h
  simp only [EventLoop.step, hr, Bool.false_eq_true, if_false]
  split
  · rename_i hget
    exact absurd (TicketQueue.get?_eq_none hget) hne
  · rfl
  · rfl

/-- **The count down to the event**, over the steps of a run. -/
theorem Behind.run {m : EventLoop} {tr : List (Transition EventLoop (EventLoop.Step σ))}
    (hs : Sequential m) (hm : m.Behind k)
    (r : ((eventLoop p items).startAt m).Run tr l) : Sequential l ∧ (l.reset ∨
      ∃ j, k = j + tr.countP (fun t => t.act.isProcess) ∧ l.Behind j) := by
  induction r with
  | init => exact ⟨hs, Or.inr ⟨k, rfl, hm⟩⟩
  | @snoc tr l l' a r hstep ih =>
    obtain ⟨hsl, hl⟩ := ih
    refine ⟨hsl.step hstep, ?_⟩
    have hrun : EventLoop.step p l a = some l' := hstep
    obtain ⟨j, hj, hbehind⟩ := hl.resolve_left (not_reset_of_step hrun)
    rw [List.countP_append]
    cases a with
    | put item =>
      obtain rfl := of_step_put hrun
      exact Or.inr ⟨j, by simpa [Step.isProcess] using hj, hbehind.put⟩
    | process world during =>
      rcases hbehind.process hsl hstep with hreset | ⟨i, rfl, hi⟩
      · exact Or.inl hreset
      · refine Or.inr ⟨i, ?_, hi⟩
        have hone : [(⟨l, .process world during, l'⟩ :
            Transition EventLoop (EventLoop.Step σ))].countP (fun t => t.act.isProcess) = 1 := rfl
        rw [hone]
        omega

end EventLoop

/-- **A factory reset comes in its turn.** From any state the event loop
reaches with a `kFactoryReset` event behind `k` other items, the loop always
has an item to handle until the device is reset, and it is reset by the time
`k + 1` of them are: whatever other threads put meanwhile, whatever the
closures ahead are, and however the calls of the wipe fail. -/
theorem reset_in_turn (p : Stack σ) (items : List Item)
    {tr₀ tr : List (Transition EventLoop (EventLoop.Step σ))} {m l : EventLoop} {k : ℕ}
    (r₀ : (eventLoop p items).Run tr₀ m) (hm : m.Behind k)
    (r : ((eventLoop p items).startAt m).Run tr l) :
    (k < tr.countP (fun t => t.act.isProcess) → l.reset) ∧
      (l.reset = false → ∀ world during,
        (EventLoop.step p l (.process world during)).isSome) := by
  have hs : Sequential m := r₀.invariant (EventLoop.sequential_init p items) fun hs h => hs.step h
  obtain ⟨-, hl⟩ := EventLoop.Behind.run hs hm r
  constructor
  · intro hlt
    rcases hl with hreset | ⟨j, hj, -⟩
    · exact hreset
    · omega
  · intro hr world during
    have hrun : ¬ l.reset := by rw [hr]; exact Bool.false_ne_true
    obtain ⟨j, -, hbehind⟩ := hl.resolve_left hrun
    exact hbehind.enabled hr world during

/-- Two items ahead of the event, and a third put while they are handled. -/
theorem reset_in_turn_of_two : ∃ tr l,
    ((eventLoop (tableStack fun _ => .noError)
      [.work (.other 0), .event .kThreadStateChange, Device.resetItem]).startAt
        (eventLoop (tableStack fun _ => .noError)
          [.work (.other 0), .event .kThreadStateChange, Device.resetItem]).init).Run tr l ∧
      tr.length = 4 ∧ l.reset := by
  obtain ⟨tr, l, r, hlen, hk⟩ := ((eventLoop (tableStack fun _ => .noError)
      [.work (.other 0), .event .kThreadStateChange, Device.resetItem]).startAt
        (eventLoop (tableStack fun _ => .noError)
          [.work (.other 0), .event .kThreadStateChange, Device.resetItem]).init).exists_run_of_exec
    [.process [⟨1, true⟩] [], .put (.work (.other 1)), .process [] [], .process [⟨1, true⟩] []]
    (fun tr _ => tr.length = 4 ∧ 2 < tr.countP fun t => t.act.isProcess) (by decide +kernel)
  exact ⟨tr, l, r, hlen, (reset_in_turn _ _ (k := 2) Machine.Run.init (by decide) r).1 hk⟩

end SoilSensor
