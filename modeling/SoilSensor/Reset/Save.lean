import SoilSensor.Reset.Model.FactoryReset
import SoilSensor.Reset.Isolation
/-!
# The scheduled save

The wipe leaves the saving of the settings to a closure it puts into the
platform's queue, and the handler that called it then sleeps and resets
the device. The handler runs on the thread that would take the closure, so
no delay is long enough: the closure is behind the handler that waits for
it. `saved_iff_no_factory_reset` says that a run is safe exactly when it
never handles the event.
-/

namespace SoilSensor

open EventLoop

variable {σ : Type*} {p : Stack σ} {l l' : EventLoop} {a : EventLoop.Step σ}

/-- **No save is lost**: where the reset is reached, every closure the wipe
scheduled was run. -/
def SavedBeforeReset (l : EventLoop) : Prop := l.reset → ∀ n ∈ l.saves, n ∈ l.executed

instance : Decidable (SavedBeforeReset l) := inferInstanceAs (Decidable (_ → _))

/-- The step handles a `kFactoryReset` event. -/
def HandlesFactoryReset (l : EventLoop) : EventLoop.Step σ → Prop
  | .process _ _ => l.queue.entries.head?.map Prod.snd = some (.event .kFactoryReset)
  | .put _ => False

instance : Decidable (HandlesFactoryReset l a) := by
  cases a <;> unfold HandlesFactoryReset <;> infer_instance

/-- The flag stands for a reset that was reached, and no closure was run
that was not put into the queue. -/
structure Sequential (l : EventLoop) : Prop where
  flag : l.sFactoryResetScheduled → l.reset
  executed : ∀ n ∈ l.executed, n < l.queue.next

/-! ## What the wipe schedules -/

/-- A call of the wipe leaves what was run, and never takes a number back. -/
theorem scheduleWork_frame {c : Call} : (scheduleWork l c).executed = l.executed ∧
    l.queue.next ≤ (scheduleWork l c).queue.next ∧ ∀ n ∈ l.saves, n ∈ (scheduleWork l c).saves := by
  cases c with
  | scheduleWork => exact ⟨rfl, Nat.le_succ _, fun n hn => List.mem_append_left _ hn⟩
  | _ => exact ⟨rfl, Nat.le_refl _, fun n hn => hn⟩

theorem foldl_scheduleWork_frame {calls : List Call} :
    (calls.foldl scheduleWork l).executed = l.executed ∧
      l.queue.next ≤ (calls.foldl scheduleWork l).queue.next ∧
      ∀ n ∈ l.saves, n ∈ (calls.foldl scheduleWork l).saves := by
  induction calls generalizing l with
  | nil => exact ⟨rfl, Nat.le_refl _, fun n hn => hn⟩
  | cons c calls ih =>
    obtain ⟨hex, hnext, hsaves⟩ := @scheduleWork_frame l c
    obtain ⟨ihex, ihnext, ihsaves⟩ := ih (l := scheduleWork l c)
    exact ⟨ihex.trans hex, Nat.le_trans hnext ihnext, fun n hn => ihsaves n (hsaves n hn)⟩

/-- **A scheduled save gets a number nothing before it had.** -/
theorem exists_save_of_mem {calls : List Call} {closure : Closure}
    (h : Call.scheduleWork closure ∈ calls) :
    ∃ n ∈ (calls.foldl scheduleWork l).saves, l.queue.next ≤ n := by
  induction calls generalizing l with
  | nil => cases h
  | cons c calls ih =>
    rcases List.mem_cons.1 h with rfl | h
    · obtain ⟨-, -, hsaves⟩ :=
        @foldl_scheduleWork_frame (scheduleWork l (.scheduleWork closure)) calls
      refine ⟨l.queue.next, hsaves _ ?_, Nat.le_refl _⟩
      exact List.mem_append_right _ (List.mem_singleton_self _)
    · obtain ⟨n, hn, hle⟩ := ih h (l := scheduleWork l c)
      exact ⟨n, hn, Nat.le_trans scheduleWork_frame.2.1 hle⟩

/-- The wipe does schedule one. -/
theorem scheduleWork_mem_wipe (p : Stack σ) (world : σ) :
    Call.scheduleWork .settingsSave ∈ (doFullMatterWipe p world).calls := by
  rw [calls_wipe]
  exact List.mem_append_right _ (by simp [Stack.closing, shutdownCalls])

/-! ## The handler -/

/-- **The handler loses the save**: it reaches the reset with the closure
it scheduled not run, whatever other threads do while it sleeps. -/
theorem not_saved_of_handler {world : σ} {during : List Item} (hs : Sequential l)
    (hr : l.reset = false) :
    ¬ SavedBeforeReset (factoryResetEventHandler p world during (some .kFactoryReset) l) := by
  have hflag : ¬ l.sFactoryResetScheduled := by
    intro hf
    rw [hs.flag hf] at hr
    cases hr
  intro hsaved
  rw [factoryResetEventHandler, if_neg (not_not.2 rfl), doFactoryResetLikeNordic, if_neg hflag]
    at hsaved
  -- the save has a number from the handler's time on, and whatever was run has one from before
  obtain ⟨n, hn, hle⟩ := @exists_save_of_mem { l with sFactoryResetScheduled := true } _ _
    (scheduleWork_mem_wipe p world)
  have hex := hsaved rfl n hn
  obtain ⟨hsame, -, -⟩ := @foldl_scheduleWork_frame { l with sFactoryResetScheduled := true }
    (doFullMatterWipe p world).calls
  have hlt := hs.executed n (hsame ▸ hex)
  exact absurd hlt (Nat.not_lt.2 hle)

/-- No other event reaches the reset. -/
theorem factoryResetEventHandler_of_ne {world : σ} {during : List Item} {type : DeviceEventType}
    (h : type ≠ .kFactoryReset) : factoryResetEventHandler p world during (some type) l = l := by
  rw [factoryResetEventHandler, if_pos]
  simpa using h

/-! ## Steps and runs -/

/-- **A step reaches the reset exactly if it handles the event**, and then
the save is lost. -/
theorem saved_step_iff (hs : Sequential l) (hstep : EventLoop.step p l a = some l') :
    SavedBeforeReset l' ↔ ¬ HandlesFactoryReset l a := by
  cases a with
  | put item =>
    simp only [EventLoop.step] at hstep
    split_ifs at hstep with hr
    cases hstep
    exact iff_of_true (fun hr' => absurd hr' hr) id
  | process world during =>
    simp only [EventLoop.step] at hstep
    split_ifs at hstep with hr
    split at hstep
    · cases hstep
    · rename_i number type queue hget
      cases hstep
      obtain ⟨hentries, hnext, -⟩ := TicketQueue.get?_eq_some hget
      by_cases ht : type = .kFactoryReset
      · subst ht
        refine iff_of_false ?_ (not_not.2 ?_)
        · refine not_saved_of_handler ⟨hs.flag, ?_⟩ (by simpa using hr)
          intro n hn
          rw [hnext]
          exact hs.executed n hn
        · rw [HandlesFactoryReset, hentries]
          rfl
      · rw [factoryResetEventHandler_of_ne ht]
        refine iff_of_true (fun hr' => absurd hr' hr) ?_
        rw [HandlesFactoryReset, hentries]
        intro heq
        exact ht (by simpa using heq)
    · rename_i number closure queue hget
      cases hstep
      obtain ⟨hentries, -, -⟩ := TicketQueue.get?_eq_some hget
      refine iff_of_true (fun hr' => absurd hr' hr) ?_
      rw [HandlesFactoryReset, hentries]
      simp

theorem Sequential.step (hs : Sequential l) (hstep : EventLoop.step p l a = some l') :
    Sequential l' := by
  cases a with
  | put item =>
    simp only [EventLoop.step] at hstep
    split_ifs at hstep
    cases hstep
    exact ⟨hs.flag, fun n hn => Nat.lt_succ_of_lt (hs.executed n hn)⟩
  | process world during =>
    simp only [EventLoop.step] at hstep
    split_ifs at hstep
    split at hstep
    · cases hstep
    · rename_i number type queue hget
      cases hstep
      obtain ⟨-, hnext, -⟩ := TicketQueue.get?_eq_some hget
      have hq : ∀ n ∈ l.executed, n < queue.next := fun n hn => hnext ▸ hs.executed n hn
      unfold factoryResetEventHandler doFactoryResetLikeNordic
      split_ifs
      · exact ⟨hs.flag, hq⟩
      · exact ⟨hs.flag, hq⟩
      · refine ⟨fun _ => rfl, fun n hn => ?_⟩
        obtain ⟨hsame, hle, -⟩ := @foldl_scheduleWork_frame
          { l with queue := queue, sFactoryResetScheduled := true } (doFullMatterWipe p world).calls
        have hlt : n < queue.next := hq n (hsame ▸ hn)
        exact Nat.lt_of_lt_of_le hlt (Nat.le_trans hle TicketQueue.next_le_putAll)
    · rename_i number closure queue hget
      cases hstep
      obtain ⟨-, hnext, hlt⟩ := TicketQueue.get?_eq_some hget
      refine ⟨hs.flag, fun n hn => ?_⟩
      change n < queue.next
      rw [hnext]
      rcases List.mem_append.1 hn with hn | hn
      · exact hs.executed n hn
      · rw [List.mem_singleton.1 hn]
        exact hlt

/-- **No work is lost, unless there is some.** From every content of the
queue, a run reaches no reset ahead of a scheduled save exactly when it
handles no `kFactoryReset` event: the handler schedules the save and
resets before its thread can run it. -/
theorem saved_iff_no_factory_reset (p : Stack σ) (items : List Item)
    {tr : List (Transition EventLoop (EventLoop.Step σ))} {l : EventLoop}
    (r : (eventLoop p items).Run tr l) :
    (∀ x ∈ (eventLoop p items).visited tr, SavedBeforeReset x) ↔
      ∀ t ∈ tr, ¬ HandlesFactoryReset t.src t.act := by
  have h0 : Sequential (eventLoop p items).init :=
    ⟨fun h => absurd h Bool.false_ne_true, fun n hn => absurd hn List.not_mem_nil⟩
  have hsaved : SavedBeforeReset (eventLoop p items).init := fun h => absurd h Bool.false_ne_true
  refine r.forall_visited_iff (D := fun _ _ => True) (C := fun l a => ¬ HandlesFactoryReset l a)
    h0 hsaved ?_ ?_ fun _ _ => trivial
  · exact fun hs h => hs.step h
  · exact fun hs _ _ h => saved_step_iff hs h

/-- **The first factory reset loses its save**, with nothing else in the
queue. -/
theorem save_lost_at_reset :
    ¬ ∀ (p : Stack (List FabricInfo)) (items : List Item)
      (tr : List (Transition EventLoop (EventLoop.Step (List FabricInfo)))) (l : EventLoop),
      (eventLoop p items).Run tr l → ∀ x ∈ (eventLoop p items).visited tr, SavedBeforeReset x := by
  intro hall
  obtain ⟨tr, l, r, hlost⟩ := (eventLoop (tableStack fun _ => .noError)
    [.event .kFactoryReset]).exists_run_of_exec [.process [⟨1, true⟩] []]
    (fun _ l => ¬ SavedBeforeReset l) (by decide +kernel)
  exact hlost (hall _ _ tr l r l r.mem_visited)

/-- The condition is met by a run that handles other events and closures. -/
theorem saved_without_factory_reset : ∃ tr l,
    (eventLoop (tableStack fun _ => .noError) [.work (.other 0), .event .kThreadStateChange]).Run
      tr l ∧ l.queue.entries = [] ∧
    ∀ x ∈ (eventLoop (tableStack fun _ => .noError)
      [.work (.other 0), .event .kThreadStateChange]).visited tr, SavedBeforeReset x := by
  obtain ⟨tr, l, r, hq, hc⟩ := (eventLoop (tableStack fun _ => .noError)
    [.work (.other 0), .event .kThreadStateChange]).exists_run_of_exec
    [.process [] [], .put (.work (.other 1)), .process [] [], .process [] []]
    (fun tr l => l.queue.entries = [] ∧ ∀ t ∈ tr, ¬ HandlesFactoryReset t.src t.act)
    (by decide +kernel)
  exact ⟨tr, l, r, hq, (saved_iff_no_factory_reset _ _ r).2 hc⟩

end SoilSensor
