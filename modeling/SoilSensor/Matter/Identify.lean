import SoilSensor.Matter.Frame
/-!
# The Identify revision override, endpoint by endpoint

`RegisterIdentifyRevisionOverride` may be called for any endpoint, but the
interfaces it registers are two statics: one of endpoint 1, one of the first
other endpoint it sees. After a sequence of calls the override answers for
these and no others (`Registered.run`), which is what was asked for exactly
when at most one other endpoint was (`answers_iff_asked_iff`).
-/

namespace SoilSensor

variable {s : AttributeServer} {es : List EndpointId} {e m : EndpointId} {a : AttributeId}

/-- The path of an attribute of Identify. -/
def identifyPath (e : EndpointId) (a : AttributeId) : ConcreteAttributePath :=
  ⟨e, Clusters.identify, a⟩

/-! ## One call -/

/-- An interface of one endpoint is refused only where its path is
answered. -/
theorem AttributeServer.get_of_refused {i : AttributeAccessInterface}
    {path : ConcreteAttributePath} (hend : i.mEndpointId = some path.mEndpointId)
    (hcl : i.mClusterId = path.mClusterId) (h : (s.register i).1 = false) :
    s.get path ≠ none := by
  have hnone : AttributeAccessInterface.matching.register i s.registry = none := by
    unfold AttributeServer.register at h
    split at h
    · cases h
    · assumption
  obtain ⟨j, hj, hover⟩ := Matching.register_eq_none_iff.1 hnone
  simp only [AttributeAccessInterface.matching, AttributeAccessInterface.meets, hend, hcl] at hover
  exact fun hfree => List.find?_eq_none.1 hfree j hj hover

/-- **Registering an override**: it is asked from then on, unless somebody
was. -/
theorem get_register_identify :
    (s.register (identifyRevisionOverride m)).2.get (identifyPath e a) =
      if e = m ∧ s.get (identifyPath e a) = none then some (identifyRevisionOverride m)
      else s.get (identifyPath e a) := by
  have hasks : (identifyRevisionOverride m).AsksFor (identifyPath e a) ↔ e = m :=
    (AttributeAccessInterface.asksFor_iff rfl).trans (and_iff_left rfl)
  rcases @AttributeServer.register_cases s (identifyRevisionOverride m) with h | ⟨h, hfree⟩
  · have hnot : ¬ (e = m ∧ s.get (identifyPath e a) = none) := by
      rintro ⟨rfl, hnone⟩
      exact @AttributeServer.get_of_refused s (identifyRevisionOverride e) (identifyPath e a)
        rfl rfl (by rw [h]) hnone
    rw [if_neg hnot, h]
    rfl
  · by_cases hem : e = m
    · have hnone : s.get (identifyPath e a) = none := hfree _ (hasks.2 hem)
      rw [if_pos ⟨hem, hnone⟩, h]
      exact Matching.get_cons_of_handles (hasks.2 hem)
    · rw [if_neg fun hc => hem hc.1, h]
      exact Matching.get_cons_of_not_handles fun hc => hem (hasks.1 hc)

/-- The endpoint of the static that a call registers. -/
def staticEndpoint (alt : Option EndpointId) (e : EndpointId) : EndpointId :=
  if e = kDefaultEndpoint then kDefaultEndpoint else alt.getD e

/-- **A call registers one of the two statics**, and constructs the second
where it is the first to need it. -/
theorem registerIdentifyRevisionOverride_eq : registerIdentifyRevisionOverride e s =
    (AttributeServer.register (identifyRevisionOverride (staticEndpoint s.sAltInterface e))
      { s with sAltInterface :=
          s.sAltInterface.or (if e ≠ kDefaultEndpoint then some e else none) }).2 := by
  unfold registerIdentifyRevisionOverride getInterface staticEndpoint
  by_cases he : e = kDefaultEndpoint
  · simp [he]
  · cases halt : s.sAltInterface with
    | none => simp [he]
    | some constructed =>
      have hsame : { s with sAltInterface := some constructed } = s := by rw [← halt]
      simp [he, hsame]

/-! ## A sequence of calls -/

/-- The endpoint of the second static after calls for `es`. -/
def altEndpoint (es : List EndpointId) : Option EndpointId := es.find? (· ≠ kDefaultEndpoint)

/-- **The endpoints the override is registered for** by calls for `es`. -/
def Reached (es : List EndpointId) (e : EndpointId) : Prop :=
  e ∈ es ∧ (e = kDefaultEndpoint ∨ altEndpoint es = some e)

instance : Decidable (Reached es e) := inferInstanceAs (Decidable (_ ∧ _))

theorem altEndpoint_snoc : altEndpoint (es ++ [e]) =
    (altEndpoint es).or (if e ≠ kDefaultEndpoint then some e else none) := by
  unfold altEndpoint
  rw [List.find?_append]
  by_cases he : e = kDefaultEndpoint <;> simp [he]

/-- The static of a call is what is reached with it. -/
theorem reached_snoc :
    Reached (es ++ [e]) m ↔ m = staticEndpoint (altEndpoint es) e ∨ Reached es m := by
  have hmem : ∀ x, altEndpoint es = some x → x ∈ es ∧ x ≠ kDefaultEndpoint := fun x hx =>
    ⟨List.mem_of_find?_eq_some hx, by simpa using List.find?_some hx⟩
  unfold Reached
  rw [altEndpoint_snoc, List.mem_append, List.mem_singleton]
  by_cases he : e = kDefaultEndpoint
  · rw [if_neg (not_not.2 he), Option.or_none, staticEndpoint, if_pos he, he]
    constructor
    · rintro ⟨-, hm | halt⟩
      · exact Or.inl hm
      · exact Or.inr ⟨(hmem m halt).1, Or.inr halt⟩
    · rintro (rfl | ⟨hm, hor⟩)
      · exact ⟨Or.inr rfl, Or.inl rfl⟩
      · exact ⟨Or.inl hm, hor⟩
  · rw [if_pos he, staticEndpoint, if_neg he]
    cases halt : altEndpoint es with
    | none =>
      constructor
      · rintro ⟨hm | hm, hd | hsome⟩
        · exact Or.inr ⟨hm, Or.inl hd⟩
        · exact Or.inl (Option.some.inj hsome).symm
        · exact Or.inl hm
        · exact Or.inl hm
      · rintro (rfl | ⟨hm, hd | hsome⟩)
        · exact ⟨Or.inr rfl, Or.inr rfl⟩
        · exact ⟨Or.inl hm, Or.inl hd⟩
        · cases hsome
    | some x =>
      obtain ⟨hx, -⟩ := hmem x halt
      constructor
      · rintro ⟨hm | rfl, hd | hsome⟩
        · exact Or.inr ⟨hm, Or.inl hd⟩
        · exact Or.inl (Option.some.inj hsome).symm
        · exact absurd hd he
        · exact Or.inl (Option.some.inj hsome).symm
      · rintro (rfl | ⟨hm, hor⟩)
        · exact ⟨Or.inl hx, Or.inr rfl⟩
        · exact ⟨Or.inl hm, hor⟩

/-- Calls one after another. -/
def registerEach (es : List EndpointId) (s : AttributeServer) : AttributeServer :=
  es.foldl (fun s e => registerIdentifyRevisionOverride e s) s

/-- **What calls leave**: the second static, and the override at the
endpoints it reached. -/
structure Registered (es : List EndpointId) (s : AttributeServer) : Prop where
  alt : s.sAltInterface = altEndpoint es
  get : ∀ e a, s.get (identifyPath e a) =
    if Reached es e then some (identifyRevisionOverride e) else none

/-- A call keeps it. -/
theorem Registered.step (h : Registered es s) :
    Registered (es ++ [e]) (registerIdentifyRevisionOverride e s) := by
  rw [registerIdentifyRevisionOverride_eq, h.alt]
  constructor
  · rw [altEndpoint_snoc]
    exact AttributeServer.register_alt
  · intro m a
    have hget : ∀ alt, AttributeServer.get (identifyPath m a) { s with sAltInterface := alt } =
        s.get (identifyPath m a) := fun _ => rfl
    rw [get_register_identify, hget, h.get m a]
    by_cases hm : Reached es m
    · rw [if_pos hm, if_neg fun hc => Option.some_ne_none _ hc.2,
        if_pos (reached_snoc.2 (Or.inr hm))]
    · by_cases hstatic : m = staticEndpoint (altEndpoint es) e
      · rw [if_neg hm, if_pos ⟨hstatic, rfl⟩, if_pos (reached_snoc.2 (Or.inl hstatic)), hstatic]
      · have hnot : ¬ Reached (es ++ [e]) m := fun hc =>
          (reached_snoc.1 hc).elim hstatic hm
        rw [if_neg hm, if_neg fun hc => hstatic hc.1, if_neg hnot]

/-- **And so do any number of calls.** -/
theorem Registered.run (h : Registered es s) (more : List EndpointId) :
    Registered (es ++ more) (registerEach more s) := by
  induction more generalizing es s with
  | nil => rwa [List.append_nil]
  | cons e more ih =>
    rw [List.append_cons]
    exact ih h.step

/-- Nothing is registered for Identify at first. -/
theorem registered_boot {registry : List AttributeAccessInterface}
    {base : ConcreteAttributePath → ReadAnswer}
    (hnone : ∀ i ∈ registry, i.mClusterId ≠ Clusters.identify) :
    Registered [] (.boot registry base) := by
  refine ⟨rfl, fun e a => ?_⟩
  rw [if_neg fun h => List.not_mem_nil h.1]
  refine List.find?_eq_none.2 fun i hi hand => hnone i hi ?_
  simp only [AttributeAccessInterface.matching, Bool.and_eq_true, decide_eq_true_eq] at hand
  exact hand.1

/-- **The override answers for the endpoint** a read of the revision. -/
def OverrideAnswers (s : AttributeServer) (e : EndpointId) : Prop :=
  ∃ m, s.get (identifyPath e kClusterRevisionId) = some (identifyRevisionOverride m) ∧
    (identifyRevisionOverride m).read (identifyPath e kClusterRevisionId) = .value (.uint16 6)

theorem Registered.answers_iff (h : Registered es s) : OverrideAnswers s e ↔ Reached es e := by
  have hread : (identifyRevisionOverride e).read (identifyPath e kClusterRevisionId) =
      .value (.uint16 6) := by
    simp [identifyRevisionOverride, IdentifyRevisionOverride.read, identifyPath]
  constructor
  · rintro ⟨m, hget, -⟩
    by_contra hnot
    rw [h.get, if_neg hnot] at hget
    cases hget
  · intro hreached
    exact ⟨e, (h.get e _).trans (if_pos hreached), hread⟩

/-- **The override reaches every endpoint it is asked for, and no other,
exactly if** no two of them but endpoint 1 differ. -/
theorem answers_iff_asked_iff (registry : List AttributeAccessInterface)
    (base : ConcreteAttributePath → ReadAnswer)
    (hnone : ∀ i ∈ registry, i.mClusterId ≠ Clusters.identify) (es : List EndpointId) :
    (∀ e, OverrideAnswers (registerEach es (.boot registry base)) e ↔ e ∈ es) ↔
      ∀ e ∈ es, ∀ e' ∈ es, e ≠ kDefaultEndpoint → e' ≠ kDefaultEndpoint → e = e' := by
  have hrun : Registered es (registerEach es (.boot registry base)) :=
    (registered_boot hnone).run es
  simp only [hrun.answers_iff]
  constructor
  · intro hall e he e' he' hne hne'
    have halt : altEndpoint es = some e := ((hall e).2 he).2.resolve_left hne
    have halt' : altEndpoint es = some e' := ((hall e').2 he').2.resolve_left hne'
    exact Option.some.inj (halt.symm.trans halt')
  · intro hsame e
    refine ⟨fun h => h.1, fun he => ⟨he, ?_⟩⟩
    by_cases hd : e = kDefaultEndpoint
    · exact Or.inl hd
    · right
      cases halt : altEndpoint es with
      | none => exact absurd (List.find?_eq_none.1 halt e he) (by simpa using hd)
      | some x =>
        have hx : x ∈ es := List.mem_of_find?_eq_some halt
        have hxd : x ≠ kDefaultEndpoint := by simpa using List.find?_some halt
        rw [hsame x hx e he hxd hd]

/-- Asked for endpoint 1 and endpoint 2, each more than once, it reaches
endpoint 2 and not endpoint 3. -/
theorem answers_iff_asked_two :
    OverrideAnswers (registerEach [1, 2, 1, 2] (.boot [] fun _ => .value .null)) 2 ∧
      ¬ OverrideAnswers (registerEach [1, 2, 1, 2] (.boot [] fun _ => .value .null)) 3 := by
  have hreached := (answers_iff_asked_iff [] (fun _ => .value .null) (by simp) [1, 2, 1, 2]).2
    (by simp [kDefaultEndpoint])
  exact ⟨(hreached 2).2 (by simp), fun h => absurd ((hreached 3).1 h) (by simp)⟩

/-- **An endpoint it does not reach**: the third. -/
theorem third_not_answered :
    ¬ ∀ (registry : List AttributeAccessInterface) (base : ConcreteAttributePath → ReadAnswer),
      (∀ i ∈ registry, i.mClusterId ≠ Clusters.identify) → ∀ es e,
        OverrideAnswers (registerEach es (.boot registry base)) e ↔ e ∈ es := by
  intro hall
  have h := hall [] (fun _ => .value .null) (by simp) [2, 3] 3
  have hrun : Registered [2, 3] (registerEach [2, 3] (.boot [] fun _ => .value .null)) :=
    (registered_boot (by simp)).run [2, 3]
  rw [hrun.answers_iff] at h
  exact absurd (h.2 (by decide)) (by decide)

end SoilSensor
