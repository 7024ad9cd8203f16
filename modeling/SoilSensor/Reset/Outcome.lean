import SoilSensor.App.Course
import SoilSensor.Reset.Device
import Mathlib.Data.List.TakeWhile
/-!
# What a hold comes to

One hold of the button, on the whole device. The application asks for a
reset, the server answers, the event loop wipes and resets: none of this is
done at once, and the reset may find the button held or let go. When nothing
of it is left to do, the outcome is known: the device has been reset exactly
if the function timer expired twice before the button was let go
(`reset_iff_held`).
-/

namespace SoilSensor

/-! ## The application's part -/

section Application

open AppTask

variable {cfg : Config} {m s : AppState} {tr₁ rest : List (Transition AppState Step)}

/-- **What a hold gains**, with the release and what follows it at the end
of the run, if the button was let go at all: a reset is gained only over two
expiries before the release, and by the time nothing of the hold is under
way it has been. -/
theorem gains_iff_of_run (r : ((appTask cfg).startAt m).Run (tr₁ ++ rest) s) (hidle : m.Idle)
    (hrest : m.AtRest) (hup : m.buttonHeld = false) (hdrop : s.dropped = m.dropped)
    (h₁ : ∀ u ∈ tr₁, ¬ u.act.ReleaseEdge) (hhead : ∀ t ∈ rest.head?, t.act.ReleaseEdge)
    (hpress : ∀ u ∈ rest, u.act.isPress = false) :
    (m.scheduledResets < s.scheduledResets → 2 ≤ tr₁.countP fun u => u.act.isExpiry) ∧
      (s.AtRest → 2 ≤ tr₁.countP (fun u => u.act.isExpiry) →
        m.scheduledResets < s.scheduledResets) := by
  have hgained : (Course.ofHold m.scheduledResets (Hold.ofApp s)).gained =
      s.scheduledResets - m.scheduledResets := rfl
  cases rest with
  | nil =>
    -- the button has not been let go
    rw [List.append_nil] at r
    obtain ⟨-, hc⟩ := held_of_run r hidle hrest hup (not_lost_from r hdrop) h₁
    split_ifs at hc with hheld
    · refine ⟨fun hlt => Course.held_gained _ hc ?_, fun hend htwo => ?_⟩
      · rw [hgained]
        omega
      · obtain ⟨hrunning, hwaiting⟩ := AppState.atRest_iff.1 hend m.scheduledResets
        have hone := Course.held_at_rest _ hc hrunning hwaiting htwo
        rw [hgained] at hone
        omega
    · obtain ⟨hzero, hcourse⟩ := hc
      rw [hcourse] at hgained
      have hnone : s.scheduledResets - m.scheduledResets = 0 := hgained.symm
      rw [hzero]
      omega
  | cons t tr₂ =>
    have ht : t.act.ReleaseEdge := hhead t rfl
    obtain ⟨-, -, hc⟩ := released_of_run r hidle hrest hup hdrop h₁ ht fun u hu =>
      hpress u (List.mem_cons_of_mem _ hu)
    refine ⟨fun hlt => ?_, fun hend htwo => ?_⟩
    · by_contra hfew
      have hnone := Course.released_gained _ hc (decide_eq_false hfew)
      rw [hgained] at hnone
      omega
    · obtain ⟨hrunning, hwaiting⟩ := AppState.atRest_iff.1 hend m.scheduledResets
      obtain ⟨-, -, hone⟩ := Course.released_at_rest _ hc hrunning hwaiting
      rw [decide_eq_true htwo, if_pos rfl, hgained] at hone
      omega

end Application

namespace Device

variable {σ : Type*} {cfg : Config} {p : Stack σ} {items : List Item} {d d' m : Device}
variable {a : Step σ} {k : ℕ} {tr : List (Transition Device (Step σ))}

/-! ## What was asked for -/

/-- The event waits somewhere in the queue. -/
theorem mem_iff_behind {l : EventLoop} :
    resetItem ∈ l.queue.entries.map Prod.snd ↔ ∃ k, l.Behind k :=
  List.mem_iff_getElem?

/-- **Between steps**: the server has answered `k` calls or more, and no more
than there were; and a reset is waiting or was reached exactly if it has
answered more than `k`. -/
structure Asked (k : ℕ) (d : Device) : Prop where
  sequential : Sequential d.loop
  low : k ≤ d.answered
  high : d.answered ≤ d.app.scheduledResets
  reset_iff : d.loop.reset = true ∨ resetItem ∈ d.loop.queue.entries.map Prod.snd ↔ k < d.answered

/-- A step of the loop alone leaves a reset that is waiting, or reaches it. -/
theorem reset_of_waiting {l l' : EventLoop} {b : EventLoop.Step σ} (hs : Sequential l)
    (h : EventLoop.step p l b = some l') (hmem : resetItem ∈ l.queue.entries.map Prod.snd) :
    l'.reset = true ∨ resetItem ∈ l'.queue.entries.map Prod.snd := by
  obtain ⟨k, hbehind⟩ := mem_iff_behind.1 hmem
  cases b with
  | put item =>
    obtain rfl := EventLoop.of_step_put h
    exact .inr (mem_iff_behind.2 ⟨k, hbehind.put⟩)
  | process world during =>
    rcases hbehind.process hs h with hreset | ⟨j, -, hj⟩
    · exact .inl hreset
    · exact .inr (mem_iff_behind.2 ⟨j, hj⟩)

theorem Asked.step (hd : Asked k d) (h : Device.step cfg p d a = some d') : Asked k d' := by
  obtain ⟨hseq, hlow, hhigh, hiff⟩ := hd
  rcases step_cases h with ⟨b, app, -, happ, rfl⟩ | ⟨-, hlt, rfl⟩ | ⟨b, loop, -, hb, hloop, rfl⟩
  · exact ⟨hseq, hlow, hhigh.trans (scheduledResets_mono happ), hiff⟩
  · refine ⟨⟨hseq.flag, fun n hn => Nat.lt_succ_of_lt (hseq.executed n hn)⟩,
      Nat.le_succ_of_le hlow, hlt, ?_⟩
    have hput : resetItem ∈ (EventLoop.put resetItem d.loop).queue.entries.map Prod.snd := by
      rw [EventLoop.items_put]
      exact List.mem_append_right _ (List.mem_singleton_self _)
    exact iff_of_true (.inr hput) (Nat.lt_succ_of_le hlow)
  · refine ⟨hseq.step hloop, hlow, hhigh, fun h' => ?_, fun hlt => ?_⟩
    · exact hiff.1 (.inr (reset_of_loop_step hb hloop h'))
    · exact reset_of_waiting hseq hloop ((hiff.2 hlt).resolve_left (EventLoop.not_reset_of_step hloop))

/-- The step lets the button go. -/
def Step.isRelease (a : Step σ) : Bool := a.app?.any fun b => b.ReleaseEdge

/-- **Nothing has been begun**: the machine is idle with the button up, every
call was answered, and no reset is waiting or was reached. -/
structure Calm (d : Device) : Prop where
  idle : d.app.Idle
  rest : d.app.AtRest
  up : d.app.buttonHeld = false
  answered : d.answered = d.app.scheduledResets
  reset : d.loop.reset = false
  waiting : resetItem ∉ d.loop.queue.entries.map Prod.snd

/-- **Nothing is left to do**: the device was reset; or nothing of a hold is
under way in the application, every call was answered, and no reset is
waiting. -/
def Settled (d : Device) : Prop :=
  d.loop.reset = true ∨
    d.app.AtRest ∧ d.answered = d.app.scheduledResets ∧
      resetItem ∉ d.loop.queue.entries.map Prod.snd

instance {d : Device} : Decidable (Settled d) := inferInstanceAs (Decidable (_ ∨ _))

theorem sequential_of_run (r : (device cfg p items).Run tr d) : Sequential d.loop := by
  refine r.invariant (I := fun d => Sequential d.loop) (EventLoop.sequential_init p items)
    fun {d a d'} hs h => ?_
  rcases step_cases h with ⟨b, app, -, -, rfl⟩ | ⟨-, -, rfl⟩ | ⟨b, loop, -, -, hloop, rfl⟩
  · exact hs
  · exact ⟨hs.flag, fun n hn => Nat.lt_succ_of_lt (hs.executed n hn)⟩
  · exact hs.step hloop

theorem Calm.asked (hm : Calm m) (hs : Sequential m.loop) : Asked m.answered m := by
  refine ⟨hs, Nat.le_refl _, Nat.le_of_eq hm.answered, iff_of_false ?_ (Nat.lt_irrefl _)⟩
  rw [hm.reset]
  exact not_or.2 ⟨Bool.false_ne_true, hm.waiting⟩

end Device

open Device in
/-- **What a hold comes to.** From any state the device reaches in which
nothing has been begun, let the button be pressed, and let go or not, and
not pressed again, with nothing posted lost and whatever else the three
threads do. When nothing is left to do, the device has been reset if the
function timer expired twice before the button was let go, and only then. -/
theorem reset_iff_held {σ : Type*} (cfg : Config) (p : Stack σ) (items : List Item)
    {tr₀ tr : List (Transition Device (Device.Step σ))} {m d : Device}
    (r₀ : (device cfg p items).Run tr₀ m) (hm : Calm m)
    (r : ((device cfg p items).startAt m).Run tr d) (hdrop : d.app.dropped = m.app.dropped)
    (hpress : ∀ t ∈ tr.dropWhile (fun t => !t.act.isRelease), t.act.isPress = false)
    (hend : Settled d) :
    d.loop.reset = true ↔
      2 ≤ (tr.takeWhile fun t => !t.act.isRelease).countP fun t => t.act.isExpiry := by
  have hasked : Asked m.answered d :=
    r.invariant (I := Asked m.answered) (hm.asked (sequential_of_run r₀)) fun hd h => hd.step h
  let held : Transition Device (Device.Step σ) → Bool := fun t => !t.act.isRelease
  have happ := run_app r
  rw [← List.takeWhile_append_dropWhile (p := held) (l := tr), List.filterMap_append] at happ
  have hheld : ∀ u ∈ (tr.takeWhile held).filterMap (Machine.projected Device.app Step.app?),
      ¬ u.act.ReleaseEdge := by
    intro u hu hrelease
    obtain ⟨t, ht, hact, -⟩ := Machine.mem_projected hu
    have hnot : held t = true := List.mem_takeWhile_imp ht
    simp only [held, Step.isRelease, hact, Option.any_some, hrelease, decide_true] at hnot
    cases hnot
  have hhead : ∀ u ∈ ((tr.dropWhile held).filterMap
      (Machine.projected Device.app Step.app?)).head?, u.act.ReleaseEdge := by
    intro u hu
    have hfirst := List.head?_dropWhile_not held tr
    cases hrest : tr.dropWhile held with
    | nil =>
      rw [hrest] at hu
      cases hu
    | cons t rest =>
      rw [hrest] at hu hfirst
      have hrelease : t.act.isRelease = true := by simpa [held] using hfirst
      obtain ⟨b, hb, hedge⟩ := (Option.any_eq_true _ _).1 hrelease
      have hone : Machine.projected Device.app Step.app? t = some ⟨t.src.app, b, t.dst.app⟩ := by
        rw [Machine.projected, hb]
        rfl
      rw [List.filterMap_cons_some hone, List.head?_cons] at hu
      obtain rfl := Option.some.inj hu
      exact of_decide_eq_true hedge
  have hafter : ∀ u ∈ (tr.dropWhile held).filterMap (Machine.projected Device.app Step.app?),
      u.act.isPress = false := by
    intro u hu
    obtain ⟨t, ht, hact, -⟩ := Machine.mem_projected hu
    have hnone := hpress t ht
    rw [Step.isPress, hact] at hnone
    exact hnone
  obtain ⟨htwo, hgain⟩ :=
    gains_iff_of_run happ hm.idle hm.rest hm.up hdrop hheld hhead hafter
  rw [Machine.countP_projected] at htwo hgain
  refine ⟨fun hreset => htwo ?_, fun hcount => ?_⟩
  · have hlt := hasked.reset_iff.1 (.inl hreset)
    have hanswered := hm.answered
    have hhigh := hasked.high
    omega
  · rcases hend with hreset | ⟨hrest, hall, hnone⟩
    · exact hreset
    · have hlt := hgain hrest hcount
      rw [← hm.answered, ← hall] at hlt
      exact (hasked.reset_iff.2 hlt).resolve_right hnone

open Device in
/-- The device is reset while the button is still held. -/
theorem reset_iff_held_still : ∃ tr d,
    ((device ⟨.two, true⟩ (tableStack fun _ => .noError) [.work (.other 0)]).startAt
        (device ⟨.two, true⟩ (tableStack fun _ => .noError) [.work (.other 0)]).init).Run tr d ∧
      d.app.buttonHeld = true ∧ d.loop.reset = true := by
  let M := device ⟨.two, true⟩ (tableStack fun _ => .noError) [.work (.other 0)]
  obtain ⟨tr, d, r, hdrop, hheld, hpress, hend, hcount⟩ :=
    (M.startAt M.init).exists_run_of_exec
      [.app (.buttons 1 1), .app .get, .app .dispatch, .app .functionTimer, .app .get,
        .app .dispatch, .loop (.process [⟨1, true⟩] []), .app .functionTimer, .app .get,
        .app .dispatch, .answer, .loop (.process [⟨1, true⟩] [])]
      (fun tr d => d.app.dropped = 0 ∧ d.app.buttonHeld = true ∧
        (∀ t ∈ tr.dropWhile fun t : Transition Device (Step _) => !t.act.isRelease,
          t.act.isPress = false) ∧
        Settled d ∧
        2 ≤ (tr.takeWhile fun t : Transition Device (Step _) => !t.act.isRelease).countP
          fun t => t.act.isExpiry)
      (by decide +kernel)
  refine ⟨tr, d, r, hheld, (reset_iff_held _ _ _ Machine.Run.init ?_ r hdrop hpress hend).2 hcount⟩
  exact ⟨by decide +kernel, by decide +kernel, rfl, rfl, rfl, by decide +kernel⟩

end SoilSensor
